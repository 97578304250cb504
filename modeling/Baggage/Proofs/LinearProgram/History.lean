import Baggage.Proofs.LinearProgram.Progress

/-!
# Baggage.Proofs.LinearProgram.History

**All tableaus that a run goes through.** A run writes the starting tableau, searches for a feasible
point over the artificial costs, exchanges the artificial columns row after row, and improves on the
point over the problem's own costs. `Solver.Step` lists the steps between its tableaus, one rule for
each of them, and `Solver.Yields` the ways in which a result is read from the last one.

The `Solver.history` of a problem collects the tableaus from the exchanges of the two walks and the
rows in between. It is a run (`Solver.isRun_history`): it begins with the starting tableau, every
tableau comes from the one before it by a step, and the last one yields the result of the solver.
What every step keeps therefore holds at every point of a run (`Solver.IsRun.induction`).
-/

namespace Baggage.LinearProgram

/-- The part of a run in which it holds a tableau. -/
inductive Part where
  /-- The starting tableau is written. -/
  | start
  /-- The first walk, over the artificial costs. -/
  | search
  /-- The exchange of the artificial columns, when a number of rows had their turn. -/
  | exchange (rows : Nat)
  /-- The second walk, over the problem's own costs. -/
  | improve
  deriving DecidableEq, Repr

/-- A tableau of a run. -/
structure Snapshot (s : Shape) where
  /-- The part of the run. -/
  part : Part
  /-- The tableau. -/
  tableau : Tableau ℚ s

namespace Tableau

variable {s : Shape}

/-! ### Exchanging artificial columns, row after row -/

/-- The tableau after the first rows have had their turn. -/
def driveOutTo (tolerance : ℚ) (t : Tableau ℚ s) (rows : Nat) : Tableau ℚ s :=
  ((List.finRange s.rows).take rows).foldl (driveOutRow tolerance) t

theorem driveOutTo_succ (tolerance : ℚ) (t : Tableau ℚ s) (i : Fin s.rows) :
    t.driveOutTo tolerance (i + 1) = (t.driveOutTo tolerance i).driveOutRow tolerance i := by
  have hlt : i.val < (List.finRange s.rows).length := by simp
  rw [driveOutTo, List.take_succ_eq_append_getElem hlt, List.foldl_append]
  simp [driveOutTo]

theorem driveOutTo_rows (tolerance : ℚ) (t : Tableau ℚ s) :
    t.driveOutTo tolerance s.rows = t.driveOut tolerance := by
  rw [driveOutTo, List.take_of_length_le (by simp), driveOut]

end Tableau

namespace Solver

/-! ### Steps and results -/

/-- One step of a run. -/
inductive Step (solver : Solver ℚ) (p : Problem ℚ) :
    Snapshot p.shape → Snapshot p.shape → Prop where
  /-- Artificial columns are priced before the search. -/
  | price {t : Tableau ℚ p.shape} (h : p.shape.artificials ≠ 0) :
      Step solver p ⟨.start, t⟩ ⟨.search, t.repriced p.artificialCosts⟩
  /-- Without artificial columns there is nothing to search for. -/
  | skip {t : Tableau ℚ p.shape} (h : p.shape.artificials = 0) :
      Step solver p ⟨.start, t⟩ ⟨.improve, t⟩
  /-- A pivot of the first walk. -/
  | search {t : Tableau ℚ p.shape} {r : Fin p.shape.rows} {c : Fin p.shape.columns}
      (h : t.move solver.tolerance p.shape.proper = .pivot r c) :
      Step solver p ⟨.search, t⟩ ⟨.search, t.pivot r c⟩
  /-- The search ends where the artificial columns have almost no sum. -/
  | find {t : Tableau ℚ p.shape} (h : t.move solver.tolerance p.shape.proper = .optimal)
      (hle : -t.costs.bound ≤ feasibilityTolerance) :
      Step solver p ⟨.search, t⟩ ⟨.exchange 0, t⟩
  /-- It is the turn of a row. -/
  | exchange {t : Tableau ℚ p.shape} (i : Fin p.shape.rows) :
      Step solver p ⟨.exchange i, t⟩ ⟨.exchange (i + 1), t.driveOutRow solver.tolerance i⟩
  /-- After the last row the problem's own costs are restored. -/
  | restore {t : Tableau ℚ p.shape} :
      Step solver p ⟨.exchange p.shape.rows, t⟩ ⟨.improve, t.repriced p.startCosts⟩
  /-- A pivot of the second walk. -/
  | improve {t : Tableau ℚ p.shape} {r : Fin p.shape.rows} {c : Fin p.shape.columns}
      (h : t.move solver.tolerance p.shape.proper = .pivot r c) :
      Step solver p ⟨.improve, t⟩ ⟨.improve, t.pivot r c⟩

/-- The results that the last tableau of a run allows. -/
inductive Yields (solver : Solver ℚ) (p : Problem ℚ) :
    Snapshot p.shape → Except (SolveError ℚ) (Solution ℚ) → Prop where
  /-- The search had no bound. -/
  | endless {t : Tableau ℚ p.shape} {c : Fin p.shape.columns}
      (h : t.move solver.tolerance p.shape.proper = .unbounded c) :
      Yields solver p ⟨.search, t⟩ (.error .infeasible)
  /-- The search left artificial columns. -/
  | infeasible {t : Tableau ℚ p.shape} (h : t.move solver.tolerance p.shape.proper = .optimal)
      (hlt : feasibilityTolerance < -t.costs.bound) :
      Yields solver p ⟨.search, t⟩ (.error .infeasible)
  /-- The budget was used up in the first walk. -/
  | searching {t : Tableau ℚ p.shape} {iterations : Nat}
      (h : t.move solver.tolerance p.shape.proper ≠ .optimal) :
      Yields solver p ⟨.search, t⟩ (.error (.didNotConverge iterations))
  /-- The budget was used up in the second walk. -/
  | improving {t : Tableau ℚ p.shape} {iterations : Nat}
      (h : t.move solver.tolerance p.shape.proper ≠ .optimal) :
      Yields solver p ⟨.improve, t⟩ (.error (.didNotConverge iterations))
  /-- The objective has no bound. -/
  | unbounded {t : Tableau ℚ p.shape} {c : Fin p.shape.columns}
      (h : t.move solver.tolerance p.shape.proper = .unbounded c) :
      Yields solver p ⟨.improve, t⟩ (.error (.unbounded c))
  /-- No move is left that improves the costs. -/
  | optimal {t : Tableau ℚ p.shape} {iterations : Nat}
      (h : t.move solver.tolerance p.shape.proper = .optimal) :
      Yields solver p ⟨.improve, t⟩ (.ok (p.solution solver.tolerance t iterations))

/-- Tableaus that lead from one to another by steps. -/
structure IsPath (solver : Solver ℚ) (p : Problem ℚ) (snapshots : List (Snapshot p.shape))
    (first last : Snapshot p.shape) : Prop where
  /-- Where it begins. -/
  head?_eq : snapshots.head? = some first
  /-- Where it ends. -/
  getLast?_eq : snapshots.getLast? = some last
  /-- Each tableau comes from the one before it by a step. -/
  isChain : snapshots.IsChain (solver.Step p)

/-- Tableaus that lead by steps from the starting one to one that yields a result. -/
def IsRun (solver : Solver ℚ) (p : Problem ℚ) (snapshots : List (Snapshot p.shape))
    (result : Except (SolveError ℚ) (Solution ℚ)) : Prop :=
  ∃ last, solver.IsPath p snapshots ⟨.start, p.start⟩ last ∧ solver.Yields p last result

section Path

variable {solver : Solver ℚ} {p : Problem ℚ} {snapshots : List (Snapshot p.shape)}

theorem isPath_singleton (x : Snapshot p.shape) : solver.IsPath p [x] x x :=
  ⟨rfl, rfl, List.isChain_singleton x⟩

/-- Two paths with a step between them. -/
theorem IsPath.append {later : List (Snapshot p.shape)} {first last next final : Snapshot p.shape}
    (h : solver.IsPath p snapshots first last) (hstep : solver.Step p last next)
    (hlater : solver.IsPath p later next final) :
    solver.IsPath p (snapshots ++ later) first final := by
  refine ⟨?_, ?_, h.isChain.append hlater.isChain fun x hx y hy => ?_⟩
  · rw [List.head?_append, h.head?_eq, Option.some_or]
  · rw [List.getLast?_append, hlater.getLast?_eq, Option.some_or]
  · obtain rfl := Option.some.inj (h.getLast?_eq.symm.trans hx)
    obtain rfl := Option.some.inj (hlater.head?_eq.symm.trans hy)
    exact hstep

/-- The stages of a walk are a path, in whichever part of a run its moves are steps. -/
theorem isPath_stages {part : Part} {exchanges : List (Fin p.shape.rows × Fin p.shape.columns)}
    {t : Tableau ℚ p.shape} (h : Tableau.Along (fun u r c =>
      u.move solver.tolerance p.shape.proper = .pivot r c) t exchanges)
    (step : ∀ (u : Tableau ℚ p.shape) r c, u.move solver.tolerance p.shape.proper = .pivot r c →
      solver.Step p ⟨part, u⟩ ⟨part, u.pivot r c⟩) :
    solver.IsPath p ((t.stages exchanges).map (Snapshot.mk part)) ⟨part, t⟩
      ⟨part, t.replay exchanges⟩ := by
  induction exchanges generalizing t with
  | nil => exact isPath_singleton _
  | cons exchange rest ih =>
      obtain ⟨r, c⟩ := exchange
      obtain ⟨hmove, hrest⟩ := h
      exact (isPath_singleton _).append (step t r c hmove) (ih hrest)

/-- **What every step keeps holds throughout a run.** -/
theorem IsRun.induction {result : Except (SolveError ℚ) (Solution ℚ)}
    (h : solver.IsRun p snapshots result) {motive : Snapshot p.shape → Prop}
    (start : motive ⟨.start, p.start⟩)
    (step : ∀ x y, solver.Step p x y → motive x → motive y) : ∀ x ∈ snapshots, motive x := by
  obtain ⟨last, hpath, -⟩ := h
  refine List.IsChain.induction motive snapshots hpath.isChain step fun hne => ?_
  have hhead := hpath.head?_eq
  rw [List.head?_eq_some_head hne] at hhead
  rw [Option.some.inj hhead]
  exact start

end Path

/-! ### The tableaus of a run -/

variable (solver : Solver ℚ) (p : Problem ℚ)

/-- The tableaus of the first walk. -/
def searchSnapshots : List (Snapshot p.shape) :=
  ((p.start.repriced p.artificialCosts).stages (solver.firstWalk p).exchanges).map
    (Snapshot.mk .search)

/-- The tableaus in which rows have their turn, the first walk's last one in front. -/
def exchangeSnapshots : List (Snapshot p.shape) :=
  (List.range (p.shape.rows + 1)).map fun rows =>
    ⟨.exchange rows, (solver.firstWalk p).tableau.driveOutTo solver.tolerance rows⟩

/-- The tableaus of the second walk. -/
def improveSnapshots (t : Tableau ℚ p.shape) (before : Nat) : List (Snapshot p.shape) :=
  (t.stages (solver.secondWalk p t before).exchanges).map (Snapshot.mk .improve)

/-- All tableaus that a run goes through, none if the problem is refused. -/
def history : List (Snapshot p.shape) :=
  match p.fault? solver.phaseOne with
  | some _ => []
  | none => ⟨.start, p.start⟩ ::
    if p.shape.artificials = 0 then solver.improveSnapshots p p.start 0
    else solver.searchSnapshots p ++
      match (solver.prepare p).result with
      | .error _ => []
      | .ok (t, before) => solver.exchangeSnapshots p ++ solver.improveSnapshots p t before

/-! ### The parts are made of steps -/

theorem isPath_searchSnapshots : solver.IsPath p (solver.searchSnapshots p)
    ⟨.search, p.start.repriced p.artificialCosts⟩ ⟨.search, (solver.firstWalk p).tableau⟩ := by
  obtain ⟨htableau, hmoves⟩ := solver.firstWalk_replay p
  rw [htableau]
  exact isPath_stages hmoves fun _ _ _ => .search

theorem isPath_exchangeSnapshots : solver.IsPath p (solver.exchangeSnapshots p)
    ⟨.exchange 0, (solver.firstWalk p).tableau⟩
    ⟨.exchange p.shape.rows, (solver.firstWalk p).tableau.driveOut solver.tolerance⟩ := by
  rw [exchangeSnapshots]
  refine ⟨?_, ?_, ?_⟩
  · rw [List.head?_map, List.head?_range]
    rfl
  · rw [List.getLast?_map, List.getLast?_range, ← Tableau.driveOutTo_rows]
    rfl
  · rw [List.isChain_map, List.isChain_range_succ]
    intro i hi
    rw [Nat.succ_eq_add_one, Tableau.driveOutTo_succ _ _ ⟨i, hi⟩]
    exact .exchange ⟨i, hi⟩

theorem isPath_improveSnapshots (t : Tableau ℚ p.shape) (before : Nat) :
    solver.IsPath p (solver.improveSnapshots p t before) ⟨.improve, t⟩
      ⟨.improve, (solver.secondWalk p t before).tableau⟩ := by
  obtain ⟨htableau, hmoves⟩ := solver.secondWalk_replay p t before
  rw [htableau]
  exact isPath_stages hmoves fun _ _ _ => .improve

/-! ### The last tableau yields the result -/

variable {solver p}

/-- If the first phase fails, the last tableau of its walk says so. -/
theorem yields_of_prepare_eq_error {e : SolveError ℚ} (h : (solver.prepare p).result = .error e) :
    p.shape.artificials ≠ 0 ∧
      solver.Yields p ⟨.search, (solver.firstWalk p).tableau⟩ (.error e) := by
  by_cases hnone : p.shape.artificials = 0
  · cases (solver.prepare_of_artificials_eq_zero p hnone).symm.trans h
  · refine ⟨hnone, ?_⟩
    have hfits := solver.firstWalk_fits p
    rw [solver.prepare_of_artificials_ne_zero p hnone] at h
    cases hending : (solver.firstWalk p).ending with
    | unbounded c =>
        rw [hending] at h hfits
        obtain rfl := Except.error.inj h
        exact .endless hfits
    | exhausted =>
        rw [hending] at h hfits
        obtain rfl := Except.error.inj h
        exact .searching hfits
    | optimal =>
        rw [hending] at h hfits
        dsimp only at h
        split at h
        · next hlt =>
            obtain rfl := Except.error.inj h
            exact .infeasible hfits hlt
        · cases h

/-- The last tableau of the second walk yields the result of the second phase. -/
theorem yields_optimize (t : Tableau ℚ p.shape) (before : Nat) :
    solver.Yields p ⟨.improve, (solver.secondWalk p t before).tableau⟩
      (solver.optimize p t before).result := by
  have hwalk : walk solver.tolerance p.shape.proper [] (solver.budget p - before) t
      = solver.secondWalk p t before := rfl
  have hfits := solver.secondWalk_fits p t before
  rw [optimize]
  dsimp only
  rw [hwalk]
  cases hending : (solver.secondWalk p t before).ending with
  | unbounded c =>
      rw [hending] at hfits
      exact .unbounded hfits
  | exhausted =>
      rw [hending] at hfits
      exact .improving hfits
  | optimal =>
      rw [hending] at hfits
      exact .optimal hfits

/-! ### The history is a run -/

/-- If the first phase fails, the history ends with the search. -/
theorem isRun_of_prepare_eq_error {e : SolveError ℚ} (h : (solver.prepare p).result = .error e) :
    solver.IsRun p (⟨.start, p.start⟩ :: solver.searchSnapshots p) (.error e) := by
  obtain ⟨hsome, hyields⟩ := yields_of_prepare_eq_error h
  exact ⟨_, (isPath_singleton _).append (.price hsome) (solver.isPath_searchSnapshots p), hyields⟩

/-- If it succeeds, what it hands on comes from the search by the exchange of artificial columns. -/
theorem isRun_of_prepare_eq_ok (hsome : p.shape.artificials ≠ 0) {t : Tableau ℚ p.shape}
    {before : Nat} (h : (solver.prepare p).result = .ok (t, before)) :
    solver.IsRun p (⟨.start, p.start⟩ :: (solver.searchSnapshots p ++
      (solver.exchangeSnapshots p ++ solver.improveSnapshots p t before)))
      (solver.optimize p t before).result := by
  obtain ⟨hending, hle, rfl⟩ := (prepare_eq_ok h).resolve_left fun hnone => hsome hnone.1
  have hfits := solver.firstWalk_fits p
  rw [hending] at hfits
  have hexchange := (solver.isPath_exchangeSnapshots p).append .restore
    (solver.isPath_improveSnapshots p (solver.prepared p) before)
  have hsearch := (solver.isPath_searchSnapshots p).append (.find hfits hle) hexchange
  exact ⟨_, (isPath_singleton _).append (.price hsome) hsearch, yields_optimize _ _⟩

/-- **The history is the run of the solver.** -/
theorem isRun_history (haccepted : p.fault? solver.phaseOne = none) :
    solver.IsRun p (solver.history p) (solver.solve p).result := by
  rcases solver.solve_cases p with
    ⟨fault, hfault, -⟩ | ⟨e, -, hprepare, hsolve⟩ | ⟨t, before, -, hprepare, hsolve⟩
  · cases haccepted.symm.trans hfault
  · have hrun := isRun_of_prepare_eq_error hprepare
    have hsome := (yields_of_prepare_eq_error hprepare).1
    simp only [history, haccepted, if_neg hsome, hprepare, hsolve, List.append_nil]
    exact hrun
  · by_cases hnone : p.shape.artificials = 0
    · obtain ⟨rfl, rfl⟩ := Prod.mk.inj (Except.ok.inj
        (hprepare.symm.trans (solver.prepare_of_artificials_eq_zero p hnone)))
      simp only [history, haccepted, if_pos hnone, hsolve]
      exact ⟨_, (isPath_singleton _).append (.skip hnone) (solver.isPath_improveSnapshots p _ _),
        yields_optimize _ _⟩
    · have hrun := isRun_of_prepare_eq_ok hnone hprepare
      simp only [history, haccepted, if_neg hnone, hprepare, hsolve]
      exact hrun

end Solver

end Baggage.LinearProgram
