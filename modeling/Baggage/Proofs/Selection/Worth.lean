import Baggage.Proofs.LinearProgram.Duality
import Baggage.Proofs.Selection.Rounding

/-!
# Baggage.Proofs.Selection.Worth

**No piece that loses value is kept**, by either strategy.

The exact strategy passes over a piece that is worth nothing before it comes to the table, so such
a piece leaves no marks, and following the marks back never takes it (`Grid.Worthwhile`). This holds
in every arithmetic.

The relaxation has a column for every piece, and one that is worth less than nothing may be basic on
the way to the optimum. At the optimum it is not: its coefficients in both rows are not negative, so
what they cost at the shadow prices is not either, and a column with a value is worth exactly that.
-/

namespace Baggage.Selection

open LinearProgram (Problem Solution Solver)

/-! ### The exact strategy -/

namespace Grid

variable {g : Grid}

/-- The last piece is kept only if it has marks; what is found further on does not depend on it. -/
theorem recover_cons (entry : ℕ × Option (Vector Bool g.layer))
    (filled : List (ℕ × Option (Vector Bool g.layer))) (pieces steps : ℕ) :
    ∃ pieces' steps' keep, g.recover pieces steps [] (entry :: filled)
      = g.recover pieces' steps' [] filled ++ [keep] ∧ (keep = true → entry.2.isSome = true) := by
  obtain ⟨taken, marks⟩ := entry
  rw [recover]
  split
  · next hmarked =>
      refine ⟨pieces - 1, steps - taken, true, recover_append _ _ _ _, fun _ => ?_⟩
      cases marks with
      | none => simp at hmarked
      | some marks => rfl
  · exact ⟨pieces, steps, false, recover_append _ _ _ _,
      fun hkeep => absurd hkeep Bool.false_ne_true⟩

variable {α : Type} [Arithmetic α]

/-- From every cell the marks lead to pieces that are worth something, and to no others. -/
structure Worthwhile (g : Grid) (seen : List (Piece α))
    (filled : List (ℕ × Option (Vector Bool g.layer))) : Prop where
  forall₂_recover : ∀ pieces steps, List.Forall₂
    (fun keep piece => keep = true → Arithmetic.le piece.value Arithmetic.zero = false)
    (g.recover pieces steps [] filled) seen

variable {seen : List (Piece α)} {filled : List (ℕ × Option (Vector Bool g.layer))}

/-- One more piece, which has marks only if it is worth something. -/
theorem Worthwhile.append (h : g.Worthwhile seen filled) {piece : Piece α}
    {entry : ℕ × Option (Vector Bool g.layer)}
    (hentry : entry.2.isSome = true → Arithmetic.le piece.value Arithmetic.zero = false) :
    g.Worthwhile (seen ++ [piece]) (entry :: filled) := by
  refine ⟨fun pieces steps => ?_⟩
  obtain ⟨pieces', steps', keep, hrecover, hkeep⟩ := recover_cons entry filled pieces steps
  rw [hrecover]
  exact List.rel_append (h.forall₂_recover pieces' steps')
    (.cons (fun htrue => hentry (hkeep htrue)) .nil)

theorem Worthwhile.fill (h : g.Worthwhile seen filled) (best : Vector α g.layer)
    (rest : List (Piece α)) : g.Worthwhile (seen ++ rest) (g.fill best filled rest) := by
  induction rest generalizing seen best filled with
  | nil => simpa [Grid.fill] using h
  | cons piece rest ih =>
      rw [List.append_cons]
      unfold Grid.fill
      dsimp only
      split
      · next hconsidered =>
          refine ih (h.append fun _ => ?_) _
          simp only [considers, Bool.and_eq_true, Bool.not_eq_true'] at hconsidered
          exact hconsidered.1
      · have hskipped : g.Worthwhile (seen ++ [piece]) ((stepsOf piece.weight, none) :: filled) :=
          h.append fun hmarked => absurd hmarked Bool.false_ne_true
        exact ih hskipped _

theorem choose_worthwhile (g : Grid) (pieces : List (Piece α)) :
    List.Forall₂ (fun keep piece => keep = true →
      Arithmetic.le piece.value Arithmetic.zero = false) (g.choose pieces) pieces := by
  have hnil : g.Worthwhile ([] : List (Piece α)) [] := ⟨fun _ _ => .nil⟩
  exact (hnil.fill _ pieces).forall₂_recover _ _

end Grid

namespace Selector

theorem value_of_getElem? {α : Type} [Arithmetic α] {weights values : List α} {budget : Budget α}
    {s : Selector α} (h : create weights values budget = .ok s) {i : ℕ} {piece : Piece α}
    (hpiece : s.pieces[i]? = some piece) : values[i]? = some piece.value := by
  obtain ⟨-, rfl⟩ := create_inv h
  obtain ⟨weight, value, -, hvalue, rfl⟩ := List.getElem?_zipWith_eq_some.mp hpiece
  exact hvalue

theorem isFinite_of_fault?_eq_none {α : Type} [Arithmetic α] {weights values : List α}
    {budget : Budget α} (h : fault? weights values budget = none) {value : α}
    (hvalue : value ∈ values) : Arithmetic.isFinite value = true := by
  unfold fault? at h
  split at h
  · cases h
  · split at h
    · cases h
    · split at h
      · cases h
      · next hnone => simpa using List.findIdx?_eq_none_iff.mp hnone value hvalue

/-- The exact strategy keeps only pieces that are worth something. -/
theorem worth_of_knapsack? {α : Type} [Arithmetic α] {pieces : List (Piece α)} {maxWeight : α}
    {maxPieces : ℕ} {kept : List Bool} (h : knapsack? pieces maxWeight maxPieces = some kept)
    {i : ℕ} (hi : kept[i]? = some true) :
    ∃ piece, pieces[i]? = some piece ∧ Arithmetic.le piece.value Arithmetic.zero = false := by
  unfold knapsack? at h
  dsimp only at h
  split at h
  · obtain rfl := Option.some.inj h
    have hworth := (Grid.ofBudgets pieces maxWeight maxPieces).choose_worthwhile pieces
    obtain ⟨hlt, hkeep⟩ := List.getElem?_eq_some_iff.mp hi
    have hlt' : i < pieces.length := hworth.length_eq ▸ hlt
    exact ⟨pieces[i], List.getElem?_eq_getElem hlt', hworth.get hlt hlt' hkeep⟩
  · cases h

/-! ### The relaxation -/

section Relaxation

theorem getD_map_of_lt {pieces : List (Piece ℚ)} {i : ℕ} (hi : i < pieces.length)
    (measure : Piece ℚ → ℚ) : (pieces.map measure).getD i 0 = measure pieces[i] := by
  rw [List.getD_eq_getElem _ _ (by rwa [List.length_map]), List.getElem_map]

variable {s : Selector ℚ} {solver : Solver ℚ} {solution : Solution ℚ}

/-- Only pieces that do not lose value have a share in a solution of the relaxation. -/
theorem value_nonneg_of_share (hbudget : 0 ≤ s.budget.maxWeight)
    (hweights : ∀ piece ∈ s.pieces, 0 ≤ piece.weight) (htol : solver.tolerance = 0)
    (h : (solver.solve s.relaxation).result = .ok solution) {i : ℕ} {share : ℚ}
    (hshare : solution.values[i]? = some share) (hne : share ≠ 0) :
    ∃ piece, s.pieces[i]? = some piece ∧ 0 ≤ piece.value := by
  have horigin := Problem.isFeasible_origin (fault?_relaxation hbudget)
  have hlength := (isFeasible_of_solve_relaxation hbudget htol h).length_eq
  obtain ⟨t, iterations, hfinal, rfl⟩ := Solver.solve_ok_isFinal htol ⟨_, horigin⟩ h
  obtain ⟨hlt, hvalue⟩ := List.getElem?_eq_some_iff.mp hshare
  have hi : i < s.relaxation.variableCount := hlength ▸ hlt
  have hpiece : i < s.pieces.length := by
    rwa [Problem.variableCount, relaxation, List.length_map] at hi
  have hgetD : (s.relaxation.solution 0 t iterations).values.getD i 0 ≠ 0 := by
    rwa [List.getD_eq_getElem _ _ hlt, hvalue]
  have hrows : ∀ row ∈ s.relaxation.rows, row.relation = .atMost ∧
      0 ≤ row.coefficients.getD i 0 := by
    simp only [relaxation, List.forall_mem_cons, getD_map_of_lt hpiece, true_and]
    exact ⟨hweights _ (List.getElem_mem hpiece), zero_le_one, List.forall_mem_nil _⟩
  have hobjective := (hfinal.isCertificate iterations).objective_nonneg rfl hrows hi hgetD
  have hvalue : s.relaxation.objective.getD i 0 = s.pieces[i].value := getD_map_of_lt hpiece _
  exact ⟨s.pieces[i], List.getElem?_eq_getElem hpiece, hvalue ▸ hobjective⟩

end Relaxation

theorem share_of_rounded {shares : List ℚ} {i : ℕ} (h : (rounded shares)[i]? = some true) :
    ∃ share, shares[i]? = some share ∧ share ≠ 0 := by
  rw [rounded, List.getElem?_map] at h
  obtain ⟨share, hshare, hkept⟩ := Option.map_eq_some_iff.mp h
  rw [threshold_eq, Arithmetic.rat_lt, decide_eq_true_eq] at hkept
  exact ⟨share, hshare, by rintro rfl; norm_num at hkept⟩

/-- What the exact strategy keeps is worth something, in every arithmetic. -/
theorem worth_of_choose_exact {α : Type} [Arithmetic α] {weights values : List α}
    {budget : Budget α} {s : Selector α} {choice : Choice α}
    (hcreate : create weights values budget = .ok s) {rate : α} {solver : Solver α}
    (h : ({ s with strategy := .exact, excessRate := rate, solver := solver } :
      Selector α).choose.result = .ok choice) {i : ℕ} (hi : choice.kept[i]? = some true) :
    ∃ value, values[i]? = some value ∧ Arithmetic.le value Arithmetic.zero = false := by
  obtain ⟨kept, hkept, rfl⟩ := choose_exact_eq_ok rfl h
  obtain ⟨piece, hpiece, hworth⟩ := worth_of_knapsack? hkept hi
  exact ⟨piece.value, value_of_getElem? hcreate hpiece, hworth⟩

/-- **No piece that loses value is kept.** The exact strategy keeps no piece that is worth at most
nothing, in every arithmetic; in particular, among floating-point numbers it keeps only pieces that
are worth more than nothing. The relaxation keeps no piece that is worth less than nothing, over the
rational numbers with a tolerance of zero, whatever the budget and the mode of the solver. -/
theorem choose_worth :
    (∀ {α : Type} [Arithmetic α] {weights values : List α} {budget : Budget α} {s : Selector α}
      {choice : Choice α}, create weights values budget = .ok s →
        ∀ (rate : α) (solver : Solver α),
        ({ s with strategy := .exact, excessRate := rate, solver := solver } :
          Selector α).choose.result = .ok choice →
        ∀ i : ℕ, choice.kept[i]? = some true → ∃ value, values[i]? = some value ∧
          Arithmetic.le value Arithmetic.zero = false) ∧
    (∀ {weights values : List Float} {budget : Budget Float} {s : Selector Float}
      {choice : Choice Float}, create weights values budget = .ok s →
        ∀ (rate : Float) (solver : Solver Float),
        ({ s with strategy := .exact, excessRate := rate, solver := solver } :
          Selector Float).choose.result = .ok choice →
        ∀ i : ℕ, choice.kept[i]? = some true → ∃ value, values[i]? = some value ∧ 0.0 < value) ∧
    (∀ {weights values : List ℚ} {budget : Budget ℚ} {s : Selector ℚ} {choice : Choice ℚ},
      create weights values budget = .ok s → ∀ (rate : ℚ) (solver : Solver ℚ),
        solver.tolerance = 0 →
        ({ s with strategy := .relaxation, excessRate := rate, solver := solver } :
          Selector ℚ).choose.result = .ok choice →
        ∀ i : ℕ, choice.kept[i]? = some true → ∃ value, values[i]? = some value ∧ 0 ≤ value) := by
  refine ⟨fun hcreate rate solver h i hi => worth_of_choose_exact hcreate h hi, ?_, ?_⟩
  · intro weights values budget s choice hcreate rate solver h i hi
    obtain ⟨value, hvalue, hworth⟩ := worth_of_choose_exact hcreate h hi
    have hfinite := isFinite_of_fault?_eq_none (create_inv hcreate).1 (List.mem_of_getElem? hvalue)
    rw [Arithmetic.float_le_zero hfinite, Bool.not_eq_false'] at hworth
    exact ⟨value, hvalue, of_decide_eq_true hworth⟩
  · intro weights values budget s choice hcreate rate solver htol h i hi
    obtain ⟨-, rfl, hbudget⟩ := create_eq_ok hcreate
    obtain ⟨solution, hsolve, rfl⟩ := choose_relaxation_eq_ok rfl h
    obtain ⟨share, hshare, hne⟩ := share_of_rounded hi
    obtain ⟨piece, hpiece, hvalue⟩ := value_nonneg_of_share hbudget
      (fun piece hpiece => (weight_of_create hcreate hpiece).2) htol hsolve hshare hne
    exact ⟨piece.value, value_of_getElem? hcreate hpiece, hvalue⟩

/-- A selector for a piece that is worth its weight, one that is worth less than nothing, and one
that is worth nothing and weighs nothing. -/
def doubtful : Selector ℚ :=
  { pieces := [⟨2 / 100, 3⟩, ⟨1 / 100, -1⟩, ⟨0, 0⟩]
    budget := ⟨4 / 100, 3, 0⟩
    strategy := .relaxation
    excessRate := standardExcessRate
    solver := .standard }

theorem create_doubtful :
    create [2 / 100, 1 / 100, 0] [3, -1, 0] ⟨4 / 100, 3, 0⟩ = .ok doubtful := by
  norm_num [create, fault?, isAmount, List.findIdx?_cons, doubtful]

/-- The same pieces in floating-point numbers, without the last one. -/
def doubtfulFloat : Selector Float :=
  { pieces := [⟨0.02, 3⟩, ⟨0.01, -1⟩]
    budget := ⟨0.04, 3, 0⟩
    strategy := .relaxation
    excessRate := standardExcessRate
    solver := .standard }

theorem create_doubtfulFloat : create [0.02, 0.01] [3, -1] ⟨0.04, 3, 0⟩ = .ok doubtfulFloat := by
  have hfault : (fault? [0.02, 0.01] [3, -1] (⟨0.04, 3, 0⟩ : Budget Float)).isNone = true := by
    decide +kernel
  rw [create, Option.isNone_iff_eq_none.mp hfault]
  rfl

/-- Only the first piece is kept. -/
theorem choose_doubtful_worth :
    (∃ choice, ({ doubtful with strategy := .exact } : Selector ℚ).choose.result = .ok choice ∧
      choice.kept = [true, false, false] ∧
      ∃ value, [(3 : ℚ), -1, 0][0]? = some value ∧ Arithmetic.le value Arithmetic.zero = false) ∧
    (∃ choice, ({ doubtful with solver := ⟨none, 0, false⟩ } : Selector ℚ).choose.result
        = .ok choice ∧
      choice.kept = [true, false, false] ∧
      ∃ value, [(3 : ℚ), -1, 0][0]? = some value ∧ 0 ≤ value) ∧
    (∃ choice, ({ doubtfulFloat with strategy := .exact } : Selector Float).choose.result
        = .ok choice ∧
      choice.kept = [true, false] ∧
      ∃ value, [(3 : Float), -1][0]? = some value ∧ 0.0 < value) := by
  obtain ⟨hexact, hfloat, hrelaxation⟩ := choose_worth
  have hkept : knapsack? doubtful.pieces (4 / 100) 3 = some [true, false, false] := by
    decide +kernel
  have hchoice : ({ doubtful with strategy := .exact } : Selector ℚ).choose.result
      = .ok (({ doubtful with strategy := .exact } : Selector ℚ).total [true, false, false]) :=
    choose_exact_of_eq_some rfl hkept
  have hsolve : (Solver.solve ⟨none, 0, false⟩ doubtful.relaxation).result = .ok
      { values := [2, 0, 0]
        objective := 6
        iterations := 1
        rows := [⟨"weight", 4 / 100, 0, 150, true⟩, ⟨"pieces", 2, 1, 0, false⟩] } := by
    decide +kernel
  have hrounded : rounded [(2 : ℚ), 0, 0] = [true, false, false] := by decide +kernel
  have hrelaxed := choose_relaxation_of_eq_ok
    (s := { doubtful with solver := ⟨none, 0, false⟩ }) rfl hsolve
  rw [hrounded] at hrelaxed
  have htol : (⟨none, 0, false⟩ : Solver ℚ).tolerance = 0 := rfl
  have hkeptFloat : knapsack? doubtfulFloat.pieces 0.04 3 = some [true, false] := by
    decide +kernel
  have hchoiceFloat : ({ doubtfulFloat with strategy := .exact } : Selector Float).choose.result
      = .ok (({ doubtfulFloat with strategy := .exact } : Selector Float).total [true, false]) :=
    choose_exact_of_eq_some rfl hkeptFloat
  exact ⟨⟨_, hchoice, rfl, hexact create_doubtful standardExcessRate .standard hchoice 0 rfl⟩,
    ⟨_, hrelaxed, rfl, hrelaxation create_doubtful standardExcessRate _ htol hrelaxed 0 rfl⟩,
    _, hchoiceFloat, rfl,
    hfloat create_doubtfulFloat standardExcessRate .standard hchoiceFloat 0 rfl⟩

end Selector

end Baggage.Selection
