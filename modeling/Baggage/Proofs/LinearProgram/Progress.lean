import Baggage.Proofs.LinearProgram.Budget
import Baggage.Proofs.LinearProgram.Priced
import Baggage.Proofs.LinearProgram.Tight

/-!
# Baggage.Proofs.LinearProgram.Progress

**Why a walk in standard form comes to an end**, with a tolerance of zero. The corner of a tableau,
the right-hand side of its costs, is the negated objective of the vertex. A pivot raises it by the
negated cost of the entering column for each unit of the least ratio (`bound_costs_pivot`), so it
never sinks, and it grows where the ratio is positive.

A pivot at a ratio of zero leaves the corner as it is, and then nothing here keeps a walk from
coming back to where it was: the leftmost column enters, but among rows of the same ratio the first
one leaves, not the one with the leftmost basic column. Where every ratio of the walk is positive
(`Solver.IsNondegenerate`) the walk has to end, because the set of basic columns determines the
corner (`IsPriced.bound_costs_eq`): the corners grow from one stage of the walk to the next, so no
set of basic columns is met twice, and there are only so many of them to choose.
-/

namespace Baggage.LinearProgram

namespace Tableau

variable {s : Shape} {t : Tableau ℚ s} {r : Fin s.rows} {c : Fin s.columns} {limit : Nat}

/-! ### The corner after a pivot -/

theorem bound_costs_pivot (t : Tableau ℚ s) (r : Fin s.rows) (c : Fin s.columns) :
    (t.pivot r c).costs.bound = t.costs.bound - t.cost c * (t.bound r / t.entry r c) := by
  rw [costs_pivot, Equation.bound_eliminate, Equation.bound_divide]
  rfl

theorem IsPivot.bound_costs_le (h : IsPivot 0 limit t r c) (hfeas : t.IsFeasible) :
    t.costs.bound ≤ (t.pivot r c).costs.bound := by
  have hratio : 0 ≤ t.bound r / t.entry r c := div_nonneg (hfeas r) h.lt_entry.le
  have hcost : t.cost c ≤ 0 := h.cost_lt.le.trans neg_zero.le
  have hchange : t.cost c * (t.bound r / t.entry r c) ≤ 0 :=
    mul_nonpos_of_nonpos_of_nonneg hcost hratio
  rw [bound_costs_pivot]
  linarith

theorem IsPivot.bound_costs_lt (h : IsPivot 0 limit t r c)
    (hratio : 0 < t.bound r / t.entry r c) :
    t.costs.bound < (t.pivot r c).costs.bound := by
  have hcost : t.cost c < 0 := h.cost_lt.trans_eq neg_zero
  have hchange : t.cost c * (t.bound r / t.entry r c) < 0 := mul_neg_of_neg_of_pos hcost hratio
  rw [bound_costs_pivot]
  linarith

/-- An exchange that the rules call for, which leaves the corner where it was or raises it, and
raises it if the ratio is positive. -/
structure Advances (limit : Nat) (t : Tableau ℚ s) (r : Fin s.rows) (c : Fin s.columns) : Prop where
  move_eq : t.move 0 limit = .pivot r c
  bound_costs_le : t.costs.bound ≤ (t.pivot r c).costs.bound
  bound_costs_lt : 0 < t.bound r / t.entry r c → t.costs.bound < (t.pivot r c).costs.bound

theorem advances_of_move (h : t.move 0 limit = .pivot r c) (hfeas : t.IsFeasible) :
    Advances limit t r c :=
  ⟨h, (isPivot_of_move h).bound_costs_le hfeas, (isPivot_of_move h).bound_costs_lt⟩

/-! ### Sets of basic columns -/

/-- The columns that the equations are solved for. -/
def basicColumns (t : Tableau ℚ s) : Finset (Fin s.columns) := Finset.univ.image t.basicColumn

theorem basicColumn_mem_basicColumns (t : Tableau ℚ s) (i : Fin s.rows) :
    t.basicColumn i ∈ t.basicColumns := Finset.mem_image_of_mem _ (Finset.mem_univ i)

theorem IsSolved.card_basicColumns (h : t.IsSolved) : t.basicColumns.card = s.rows := by
  rw [basicColumns, Finset.card_image_of_injective _ h.basicColumn_injective, Finset.card_univ,
    Fintype.card_fin]

/-! ### The stages of a walk -/

/-- The tableaus that exchanges lead through, the first and the last one among them. -/
def stages : Tableau ℚ s → List (Fin s.rows × Fin s.columns) → List (Tableau ℚ s)
  | t, [] => [t]
  | t, (r, c) :: rest => t :: (t.pivot r c).stages rest

theorem length_stages (t : Tableau ℚ s) (exchanges : List (Fin s.rows × Fin s.columns)) :
    (t.stages exchanges).length = exchanges.length + 1 := by
  induction exchanges generalizing t with
  | nil => rfl
  | cons exchange rest ih =>
      obtain ⟨r, c⟩ := exchange
      rw [stages, List.length_cons, ih, List.length_cons]

section Along

variable {kind : Tableau ℚ s → Fin s.rows → Fin s.columns → Prop} {motive : Tableau ℚ s → Prop}
  {exchanges : List (Fin s.rows × Fin s.columns)}

theorem Along.mono {other : Tableau ℚ s → Fin s.rows → Fin s.columns → Prop}
    (h : Along kind t exchanges) (himp : ∀ u r c, kind u r c → other u r c) :
    Along other t exchanges :=
  h.imp (motive := fun _ => True) (fun _ _ _ _ _ => trivial) (fun u r c _ => himp u r c) trivial

/-- What the exchanges have in common whatever their tableau. -/
theorem Along.forall_mem {choice : Fin s.rows → Fin s.columns → Prop}
    (h : Along (fun _ r c => choice r c) t exchanges) :
    ∀ exchange ∈ exchanges, choice exchange.1 exchange.2 := by
  induction exchanges generalizing t with
  | nil => exact List.forall_mem_nil _
  | cons exchange rest ih =>
      obtain ⟨r, c⟩ := exchange
      exact List.forall_mem_cons.mpr ⟨h.1, ih h.2⟩

/-- A property that every exchange of a kind keeps holds at every stage. -/
theorem Along.forall_mem_stages (h : Along kind t exchanges)
    (step : ∀ u r c, motive u → kind u r c → motive (u.pivot r c)) (ht : motive t) :
    ∀ u ∈ t.stages exchanges, motive u := by
  induction exchanges generalizing t with
  | nil => exact List.forall_mem_singleton.mpr ht
  | cons exchange rest ih =>
      obtain ⟨r, c⟩ := exchange
      obtain ⟨hkind, hrest⟩ := h
      exact List.forall_mem_cons.mpr ⟨ht, ih hrest (step t r c ht hkind)⟩

/-- Where every exchange raises the corner, it grows from each stage to all later ones. -/
theorem Along.pairwise_stages
    (h : Along (fun u r c => u.costs.bound < (u.pivot r c).costs.bound) t exchanges) :
    (t.stages exchanges).Pairwise (fun u v => u.costs.bound < v.costs.bound) := by
  induction exchanges generalizing t with
  | nil => exact List.pairwise_singleton _ t
  | cons exchange rest ih =>
      obtain ⟨r, c⟩ := exchange
      obtain ⟨hraise, hrest⟩ := h
      -- the next stage is above this one, and what is above it is kept by every further exchange
      have hlater : ∀ v ∈ (t.pivot r c).stages rest, t.costs.bound < v.costs.bound :=
        hrest.forall_mem_stages (motive := fun v => t.costs.bound < v.costs.bound)
          (fun v r c hv hnext => hv.trans hnext) hraise
      exact List.pairwise_cons.mpr ⟨hlater, ih hrest⟩

end Along

end Tableau

namespace Problem

variable {p : Problem ℚ} {objective : Equation ℚ p.shape.columns} {t u : Tableau ℚ p.shape}

/-- **The set of basic columns determines the corner**, for tableaus priced for the same objective:
at the vertex of either one, the costs of the other see nothing. -/
theorem IsPriced.bound_costs_eq (ht : p.IsPriced objective t) (hu : p.IsPriced objective u)
    (h : t.basicColumns = u.basicColumns) : t.costs.bound = u.costs.bound := by
  have hsolves : t.Solves u.vertex :=
    ht.isFormOf.solves_iff.mpr (hu.isFormOf.solves_iff.mp hu.isFormOf.solved.solves_vertex)
  have hvanish : ∀ j, t.costs.coefficient j * u.vertex j = 0 := by
    intro j
    by_cases hj : j ∈ t.basicColumns
    · obtain ⟨i, -, rfl⟩ := Finset.mem_image.mp hj
      have hcost : t.costs.coefficient (t.basicColumn i) = 0 := ht.prices.cost_basicColumn i
      rw [hcost, zero_mul]
    · have hvertex : u.vertex j = 0 := by
        refine u.vertex_eq_zero fun i hi => absurd ?_ hj
        rw [h, ← hi]
        exact u.basicColumn_mem_basicColumns i
      rw [hvertex, mul_zero]
  have hexcess : t.costs.excess u.vertex = -t.costs.bound := by
    rw [Equation.excess, Finset.sum_eq_zero fun j _ => hvanish j, zero_sub]
  have hsame : -t.costs.bound = -u.costs.bound :=
    calc -t.costs.bound = t.costs.excess u.vertex := hexcess.symm
      _ = objective.excess u.vertex := ht.prices.excess_eq hsolves
      _ = -u.costs.bound := hu.prices.excess_vertex hu.isFormOf.solved
  exact neg_injective hsame

/-- Where the corner grows from stage to stage, no set of basic columns is met twice. -/
theorem nodup_basicColumns {stages : List (Tableau ℚ p.shape)}
    (hgrows : stages.Pairwise (fun u v => u.costs.bound < v.costs.bound))
    (hpriced : ∀ u ∈ stages, p.IsPriced objective u) :
    (stages.map Tableau.basicColumns).Nodup := by
  refine List.pairwise_map.mpr (hgrows.imp_of_mem fun {u v} hu hv hlt hsame => ?_)
  exact hlt.ne ((hpriced u hu).bound_costs_eq (hpriced v hv) hsame)

/-- There are no more stages than choices of basic columns. -/
theorem length_stages_le_choose {stages : List (Tableau ℚ p.shape)}
    (hnodup : (stages.map Tableau.basicColumns).Nodup)
    (hpriced : ∀ u ∈ stages, p.IsPriced objective u) :
    stages.length ≤ p.shape.columns.choose p.shape.rows := by
  have hsubset : (stages.map Tableau.basicColumns).toFinset
      ⊆ Finset.univ.powersetCard p.shape.rows := by
    intro columns hcolumns
    obtain ⟨u, hu, rfl⟩ := List.mem_map.mp (List.mem_toFinset.mp hcolumns)
    exact Finset.mem_powersetCard.mpr
      ⟨Finset.subset_univ _, (hpriced u hu).isFormOf.solved.card_basicColumns⟩
  calc stages.length = (stages.map Tableau.basicColumns).toFinset.card := by
        rw [List.toFinset_card_of_nodup hnodup, List.length_map]
    _ ≤ (Finset.univ.powersetCard p.shape.rows).card := Finset.card_le_card hsubset
    _ = p.shape.columns.choose p.shape.rows := by
        rw [Finset.card_powersetCard, Finset.card_univ, Fintype.card_fin]

end Problem

namespace Solver

variable {solver : Solver ℚ} {p : Problem ℚ}

/-- Whether every ratio is positive at which the walk from the origin makes a pivot. -/
def IsNondegenerate (solver : Solver ℚ) (p : Problem ℚ) : Prop :=
  Tableau.Along (fun t r c => 0 < t.bound r / t.entry r c) p.start
    (solver.secondWalk p p.start 0).exchanges

instance (solver : Solver ℚ) (p : Problem ℚ) : Decidable (solver.IsNondegenerate p) :=
  inferInstanceAs (Decidable (Tableau.Along (fun t r c => 0 < t.bound r / t.entry r c) p.start
    (solver.secondWalk p p.start 0).exchanges))

/-- The pivots of a run in standard form are those of the walk from the origin. -/
theorem pivots_solve_of_standard (hstandard : p.fault? false = none) :
    (solver.solve p).pivots = (solver.secondWalk p p.start 0).pivots 0 := by
  rw [solve_of_standard hstandard]
  exact (solver.concludes_optimize p.start 0).pivots_eq

/-- A budget that does not suffice is used up by this walk. -/
theorem length_exchanges_of_didNotConverge (hstandard : p.fault? false = none) {n : Nat}
    (h : (solver.solve p).result = .error (.didNotConverge n)) :
    (solver.secondWalk p p.start 0).exchanges.length = solver.budget p := by
  rw [solve_of_standard hstandard, Logged.result_precededBy,
    (solver.concludes_optimize p.start 0).out_iff] at h
  have hlength := (length_exchanges solver.tolerance p.shape.proper [] (solver.budget p - 0)
    p.start).2 h.1
  rwa [List.length_nil, Nat.zero_add, Nat.sub_zero] at hlength

/-- With a tolerance of zero the second walk makes its pivots at the least ratio of all. -/
theorem secondWalk_isPivot (htol : solver.tolerance = 0) (t : Tableau ℚ p.shape) (before : Nat) :
    Tableau.Along (Tableau.IsPivot 0 p.shape.proper) t
      (solver.secondWalk p t before).exchanges := by
  have hmoves := (solver.secondWalk_replay p t before).2
  rw [htol] at hmoves
  exact hmoves.mono fun _ _ _ => Tableau.isPivot_of_move

theorem forall_stages_isPhase (htol : solver.tolerance = 0) :
    ∀ u ∈ p.start.stages (solver.secondWalk p p.start 0).exchanges,
      p.IsPhase p.startCosts u :=
  (secondWalk_isPivot htol p.start 0).forall_mem_stages
    (motive := fun u => p.IsPhase p.startCosts u) (fun _ _ _ hu hpivot => hu.pivot hpivot)
    p.isPhase_start

/-- **Progress, and an end without degeneracy.** The pivots of a run in standard form are those of
the walk from the origin. Each of them leaves the corner of the tableau where it was or raises it,
and raises it if the least ratio is positive. If all ratios are positive, no set of basic columns is
met twice, and a budget of as many pivots as there are choices of basic columns is not used up. -/
theorem solve_progress (htol : solver.tolerance = 0) (hstandard : p.fault? false = none) :
    (solver.solve p).pivots = (solver.secondWalk p p.start 0).pivots 0 ∧
    Tableau.Along (Tableau.Advances p.shape.proper) p.start
      (solver.secondWalk p p.start 0).exchanges ∧
    (solver.IsNondegenerate p →
      ((p.start.stages (solver.secondWalk p p.start 0).exchanges).map
        Tableau.basicColumns).Nodup ∧
      ((p.variableCount + p.rows.length).choose p.rows.length ≤ solver.budget p →
        ∀ n, (solver.solve p).result ≠ .error (.didNotConverge n))) := by
  have hmoves := (solver.secondWalk_replay p p.start 0).2
  rw [htol] at hmoves
  have hadvances : Tableau.Along (Tableau.Advances p.shape.proper) p.start
      (solver.secondWalk p p.start 0).exchanges := by
    refine hmoves.imp (motive := fun u => p.IsPhase p.startCosts u) ?_ ?_ p.isPhase_start
    · exact fun u r c hu hmove => hu.pivot (Tableau.isPivot_of_move hmove)
    · exact fun u r c hu hmove => Tableau.advances_of_move hmove hu.isFeasible
  refine ⟨pivots_solve_of_standard hstandard, hadvances, fun hpositive => ?_⟩
  have hpriced : ∀ u ∈ p.start.stages (solver.secondWalk p p.start 0).exchanges,
      p.IsPriced p.startCosts u := fun u hu => (forall_stages_isPhase htol u hu).isPriced
  have hgrows := ((hadvances.and hpositive).mono fun u r c hkind =>
    hkind.1.bound_costs_lt hkind.2).pairwise_stages
  have hnodup := Problem.nodup_basicColumns hgrows hpriced
  refine ⟨hnodup, fun hbudget n herror => ?_⟩
  -- a budget that is used up has led through one stage more than it has pivots
  have hstages := Problem.length_stages_le_choose hnodup hpriced
  have hcolumns : p.shape.columns = p.variableCount + p.rows.length := by
    show p.shape.proper + p.shape.artificials = p.shape.proper
    rw [Problem.artificials_eq_zero hstandard, Nat.add_zero]
  rw [Tableau.length_stages, length_exchanges_of_didNotConverge hstandard herror, hcolumns]
    at hstages
  exact absurd hbudget (not_le.mpr hstages)

/-- The solver of problems in standard form without a tolerance, with a budget. -/
def strict (budget : Nat) : Solver ℚ := ⟨some budget, 0, false⟩

/-- Two rows and four columns make six choices of basic columns; the walk makes two pivots. -/
theorem solve_corner_progress :
    Problem.corner.fault? false = none ∧ (strict 6).IsNondegenerate Problem.corner ∧
      ((strict 6).solve Problem.corner).pivots.length = 2 ∧
      ∀ n, ((strict 6).solve Problem.corner).result ≠ .error (.didNotConverge n) := by
  have hstandard : Problem.corner.fault? false = none := by decide +kernel
  have hpositive : (strict 6).IsNondegenerate Problem.corner := by decide +kernel
  have hlength : ((strict 6).secondWalk Problem.corner Problem.corner.start 0).exchanges.length
      = 2 := by decide +kernel
  have htol : (strict 6).tolerance = 0 := rfl
  obtain ⟨hpivots, -, hend⟩ := solve_progress htol hstandard
  refine ⟨hstandard, hpositive, ?_, (hend hpositive).2 (by decide)⟩
  rw [hpivots, Walk.length_pivots, hlength]

end Solver

end Baggage.LinearProgram
