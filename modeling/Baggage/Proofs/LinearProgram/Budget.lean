import Baggage.Proofs.LinearProgram.Move
import Baggage.Proofs.LinearProgram.Solver

/-!
# Baggage.Proofs.LinearProgram.Budget

**What a budget of pivots decides**, in every arithmetic: how far the solver comes, and nothing
else. A walk that used its budget up is resumed by a larger one (`walk_add`), and any other walk
does not depend on the rest of its budget.

The two phases share one budget, of which the second has what the first left over. `KeepsTo` says
what a computation owes to a budget when so many pivots were made in front of it, and `IsCutOf` how
it relates to the same computation under a larger budget. Both hold of whatever is concluded from a
walk (`Concludes.keepsTo`, `Concludes.isCutOf`) and are kept when one computation follows another
(`KeepsTo.andThenOk`, `IsCutOf.andThenOk`), so both hold of the solver, and
`Solver.solve_budget_laws` is read off them.
-/

namespace Baggage

/-! ### Pivots among the events -/

/-- The number that a pivot carries. -/
def Event.iteration? {α : Type} : Event α → Option Nat
  | .pivot iteration _ _ => some iteration
  | _ => none

/-- Whether an event is a pivot. -/
def Event.isPivot {α : Type} (event : Event α) : Bool := event.iteration?.isSome

namespace Logged

variable {α β γ ε : Type}

/-- The pivots among the events. -/
def pivots (x : Logged α β) : List (Event α) := x.events.filter Event.isPivot

theorem pivots_append (x : Logged α β) (y : Logged α γ) :
    (⟨y.result, x.events ++ y.events⟩ : Logged α γ).pivots = x.pivots ++ y.pivots :=
  List.filter_append _ _

/-- What follows a failure does not happen. -/
theorem andThenOk_of_error {x : Logged α (Except ε β)} {e : ε} (h : x.result = .error e)
    (f : β → Logged α (Except ε γ)) : x.andThenOk f = ⟨.error e, x.events⟩ := by
  simp [andThenOk, andThen, h, quiet]

/-- What follows a success happens after it. -/
theorem andThenOk_of_ok {x : Logged α (Except ε β)} {b : β} (h : x.result = .ok b)
    (f : β → Logged α (Except ε γ)) :
    x.andThenOk f = ⟨(f b).result, x.events ++ (f b).events⟩ := by
  simp [andThenOk, andThen, h]

end Logged

namespace LinearProgram

/-! ### Walks under two budgets -/

section Walk

variable {α : Type} [Arithmetic α] {s : Shape} {tolerance : α} {limit : Nat}

/-- **A walk that used its budget up is resumed by a larger one**; every other walk is the same
under a larger budget. -/
theorem walk_add (made : List (Fin s.rows × Fin s.columns)) (budget extra : Nat)
    (t : Tableau α s) :
    walk tolerance limit made (budget + extra) t
      = match (walk tolerance limit made budget t).ending with
        | .exhausted =>
          walk tolerance limit (walk tolerance limit made budget t).exchanges.reverse extra
            (walk tolerance limit made budget t).tableau
        | _ => walk tolerance limit made budget t := by
  induction budget generalizing made t with
  | zero =>
      rw [Nat.zero_add]
      cases hmove : t.move tolerance limit with
      | optimal => cases extra <;> simp [walk, hmove]
      | unbounded c => simp [walk, hmove]
      | pivot r c => simp [walk, hmove]
  | succ budget ih =>
      rw [Nat.add_right_comm]
      cases hmove : t.move tolerance limit with
      | optimal => simp [walk, hmove]
      | unbounded c => simp [walk, hmove]
      | pivot r c =>
          simp only [walk, hmove]
          exact ih _ _

/-- A walk keeps the exchanges that were made in front of it. -/
theorem reverse_prefix_exchanges (tolerance : α) (limit : Nat)
    (made : List (Fin s.rows × Fin s.columns)) (budget : Nat) (t : Tableau α s) :
    made.reverse <+: (walk tolerance limit made budget t).exchanges := by
  induction budget generalizing made t with
  | zero =>
      unfold walk
      split <;> exact List.prefix_rfl
  | succ budget ih =>
      unfold walk
      split
      · exact List.prefix_rfl
      · exact List.prefix_rfl
      · next r c _ =>
          refine List.IsPrefix.trans ?_ (ih ((r, c) :: made) (t.pivot r c))
          rw [List.reverse_cons]
          exact List.prefix_append _ _

/-- A walk makes no more exchanges than its budget allows, and uses all of it if it ends for want
of pivots. -/
theorem length_exchanges (tolerance : α) (limit : Nat)
    (made : List (Fin s.rows × Fin s.columns)) (budget : Nat) (t : Tableau α s) :
    (walk tolerance limit made budget t).exchanges.length ≤ made.length + budget ∧
      ((walk tolerance limit made budget t).ending = .exhausted →
        (walk tolerance limit made budget t).exchanges.length = made.length + budget) := by
  induction budget generalizing made t with
  | zero =>
      unfold walk
      split
      · simp
      · simp
  | succ budget ih =>
      unfold walk
      split
      · simp
      · simp
      · next r c _ =>
          obtain ⟨hle, heq⟩ := ih ((r, c) :: made) (t.pivot r c)
          rw [List.length_cons, Nat.add_right_comm] at hle heq
          exact ⟨hle, heq⟩

variable {budget more : Nat} {t : Tableau α s}

/-- A walk that did not use its budget up is the same under every larger one. -/
theorem walk_eq_of_ne_exhausted (hle : budget ≤ more)
    (h : (walk tolerance limit [] budget t).ending ≠ .exhausted) :
    walk tolerance limit [] more t = walk tolerance limit [] budget t := by
  obtain ⟨extra, rfl⟩ := Nat.exists_eq_add_of_le hle
  rw [walk_add]
  split
  · next hending => exact absurd hending h
  · rfl

/-- A larger budget only adds exchanges behind the others. -/
theorem exchanges_prefix_of_le (hle : budget ≤ more) :
    (walk tolerance limit [] budget t).exchanges
      <+: (walk tolerance limit [] more t).exchanges := by
  obtain ⟨extra, rfl⟩ := Nat.exists_eq_add_of_le hle
  rw [walk_add]
  split
  · have hresumed := reverse_prefix_exchanges tolerance limit
      (walk tolerance limit [] budget t).exchanges.reverse extra
      (walk tolerance limit [] budget t).tableau
    rwa [List.reverse_reverse] at hresumed
  · exact List.prefix_rfl

end Walk

variable {α : Type}

namespace Walk

variable {s : Shape} {w : Walk α s}

@[simp] theorem length_pivots (before : Nat) : (w.pivots before).length = w.exchanges.length :=
  List.length_mapIdx

/-- The pivots of a walk are numbered on from those in front of it. -/
theorem iterations_pivots (before : Nat) : (w.pivots before).map Event.iteration?
    = (List.range' before w.exchanges.length).map some := by
  refine List.ext_getElem (by simp) fun i _ _ => ?_
  simp [Walk.pivots, Event.iteration?]

theorem filter_pivots (before : Nat) :
    (w.pivots before).filter Event.isPivot = w.pivots before := by
  refine List.filter_eq_self.mpr fun event hevent => ?_
  obtain ⟨i, hi, rfl⟩ := List.mem_iff_getElem.mp hevent
  simp [Walk.pivots, Event.isPivot, Event.iteration?]

theorem pivots_prefix_of_exchanges {w' : Walk α s} (h : w.exchanges <+: w'.exchanges)
    (before : Nat) : w.pivots before <+: w'.pivots before := by
  obtain ⟨later, hlater⟩ := h
  rw [Walk.pivots, Walk.pivots, ← hlater, List.mapIdx_append]
  exact List.prefix_append _ _

end Walk

/-! ### Computations that keep to a budget -/

/-- Whether a result says that the budget was used up. -/
def RanOut {β : Type} (result : Except (SolveError α) β) : Prop :=
  ∃ n, result = .error (.didNotConverge n)

/-- **What a computation owes to its budget**, when `before` pivots were made in front of it and
`spent` tells from a success how many were made in all. -/
structure KeepsTo {β : Type} (before budget : Nat) (spent : β → Nat)
    (x : Logged α (Except (SolveError α) β)) : Prop where
  /-- The pivots are numbered on from those in front, without a gap. -/
  numbered : x.pivots.map Event.iteration? = (List.range' before x.pivots.length).map some
  /-- There are no more than the budget allows. -/
  within : before + x.pivots.length ≤ budget
  /-- A success tells their number. -/
  spent_eq : ∀ b, x.result = .ok b → spent b = before + x.pivots.length
  /-- A budget that was used up is reported as it was given. -/
  used : ∀ n, x.result = .error (.didNotConverge n) →
    n = budget ∧ before + x.pivots.length = budget

/-- **How a computation relates to the same one under a larger budget.** -/
structure IsCutOf {β : Type} (x y : Logged α (Except (SolveError α) β)) : Prop where
  /-- The larger budget makes no difference if the smaller one was not used up. -/
  settled : ¬ RanOut x.result → y.result = x.result ∧ y.pivots = x.pivots
  /-- The larger budget only adds pivots behind the others. -/
  grows : x.pivots <+: y.pivots

section Budget

variable {β γ : Type} {before budget : Nat} {spent : β → Nat} {spent' : γ → Nat}
  {x y : Logged α (Except (SolveError α) β)} {g g' : β → Logged α (Except (SolveError α) γ)}

/-- **A smaller budget than a success needs is used up.** -/
theorem IsCutOf.eq_didNotConverge (h : IsCutOf x y) {fewer : Nat}
    (hx : KeepsTo before fewer spent x) (hy : KeepsTo before budget spent y) {b : β}
    (hok : y.result = .ok b) (hlt : fewer < spent b) :
    x.result = .error (.didNotConverge fewer) := by
  by_cases hout : RanOut x.result
  · obtain ⟨n, hn⟩ := hout
    obtain ⟨rfl, -⟩ := hx.used n hn
    exact hn
  · -- otherwise the smaller budget would have sufficed for just as many pivots
    obtain ⟨-, hpivots⟩ := h.settled hout
    have hspent := hy.spent_eq b hok
    have hwithin := hx.within
    rw [hpivots] at hspent
    omega

/-! ### One computation after the other -/

/-- A result that was reached without pivots keeps to every budget. -/
theorem KeepsTo.quiet {result : Except (SolveError α) β} (hle : before ≤ budget)
    (hout : ¬ RanOut result) (hspent : ∀ b, result = .ok b → spent b = before) :
    KeepsTo before budget spent (Logged.quiet result) where
  numbered := rfl
  within := hle
  spent_eq := hspent
  used n herror := absurd ⟨n, herror⟩ hout

theorem IsCutOf.refl (x : Logged α (Except (SolveError α) β)) : IsCutOf x x :=
  ⟨fun _ => ⟨rfl, rfl⟩, List.prefix_rfl⟩

/-- **What follows a success keeps to the budget** that the success left over. -/
theorem KeepsTo.andThenOk (hx : KeepsTo before budget spent x)
    (hg : ∀ b, x.result = .ok b → spent b ≤ budget → KeepsTo (spent b) budget spent' (g b)) :
    KeepsTo before budget spent' (x.andThenOk g) := by
  cases hresult : x.result with
  | error e =>
      rw [Logged.andThenOk_of_error hresult]
      refine ⟨hx.numbered, hx.within, nofun, fun n herror => ?_⟩
      exact hx.used n (hresult.trans (congrArg _ (Except.error.inj herror)))
  | ok b =>
      have hspent := hx.spent_eq b hresult
      obtain ⟨hnumbered, hwithin, hspent', hused⟩ := hg b hresult (hspent ▸ hx.within)
      rw [Logged.andThenOk_of_ok hresult]
      refine ⟨?_, ?_, fun c hok => ?_, fun n herror => ?_⟩ <;>
        rw [Logged.pivots_append, List.length_append]
      · rw [List.map_append, hx.numbered, hnumbered, hspent, ← List.map_append,
          List.range'_append_1]
      · omega
      · have hc := hspent' c hok
        omega
      · have hn := hused n herror
        omega

/-- What happened up to a success still happens if something follows. -/
theorem pivots_prefix_andThenOk : x.pivots <+: (x.andThenOk g).pivots := by
  cases hresult : x.result with
  | error e =>
      rw [Logged.andThenOk_of_error hresult]
      exact List.prefix_rfl
  | ok b =>
      rw [Logged.andThenOk_of_ok hresult, Logged.pivots_append]
      exact List.prefix_append _ _

/-- **Two computations under two budgets**, one after the other. -/
theorem IsCutOf.andThenOk (hx : IsCutOf x y) (hg : ∀ b, x.result = .ok b → IsCutOf (g b) (g' b)) :
    IsCutOf (x.andThenOk g) (y.andThenOk g') := by
  by_cases hout : RanOut x.result
  · obtain ⟨n, hresult⟩ := hout
    rw [Logged.andThenOk_of_error hresult]
    exact ⟨fun hnot => absurd ⟨n, rfl⟩ hnot, hx.grows.trans pivots_prefix_andThenOk⟩
  · obtain ⟨hsame, hpivots⟩ := hx.settled hout
    cases hresult : x.result with
    | error e =>
        rw [Logged.andThenOk_of_error hresult, Logged.andThenOk_of_error (hsame.trans hresult)]
        exact ⟨fun _ => ⟨rfl, hpivots⟩, hx.grows⟩
    | ok b =>
        rw [Logged.andThenOk_of_ok hresult, Logged.andThenOk_of_ok (hsame.trans hresult)]
        obtain ⟨hsettled, hgrows⟩ := hg b hresult
        refine ⟨fun hnot => ?_, ?_⟩
        · obtain ⟨hsame', hpivots'⟩ := hsettled hnot
          rw [Logged.pivots_append, Logged.pivots_append, hpivots, hpivots']
          exact ⟨hsame', rfl⟩
        · rw [Logged.pivots_append, Logged.pivots_append, hpivots]
          exact (List.prefix_append_right_inj _).mpr hgrows

/-! ### What is concluded from a walk -/

/-- A computation makes the pivots of a walk and nothing but these, and reports the budget to be
used up exactly if the walk used it up. -/
structure Concludes {s : Shape} (w : Walk α s) (before : Nat) (spent : β → Nat)
    (x : Logged α (Except (SolveError α) β)) : Prop where
  /-- The pivots are those of the walk. -/
  pivots_eq : x.pivots = w.pivots before
  /-- The budget is reported to be used up exactly if the walk used it up. -/
  out_iff : ∀ n, x.result = .error (.didNotConverge n) ↔
    w.ending = .exhausted ∧ n = before + w.exchanges.length
  /-- A success tells the number of pivots. -/
  spent_eq : ∀ b, x.result = .ok b → spent b = before + w.exchanges.length

variable [Arithmetic α] {s : Shape} {tolerance : α} {limit : Nat} {t : Tableau α s}

theorem Concludes.keepsTo {left : Nat} (hleft : before + left = budget)
    (h : Concludes (walk tolerance limit [] left t) before spent x) :
    KeepsTo before budget spent x := by
  obtain ⟨hlength, hexhausted⟩ := length_exchanges tolerance limit [] left t
  rw [List.length_nil, Nat.zero_add] at hlength hexhausted
  refine ⟨?_, ?_, ?_, ?_⟩ <;> rw [h.pivots_eq, Walk.length_pivots]
  · exact Walk.iterations_pivots before
  · omega
  · exact h.spent_eq
  · intro n herror
    obtain ⟨hending, rfl⟩ := (h.out_iff n).mp herror
    have hused := hexhausted hending
    omega

theorem Concludes.isCutOf {less more : Nat} (hle : less ≤ more)
    (hx : Concludes (walk tolerance limit [] less t) before spent x)
    (hy : Concludes (walk tolerance limit [] more t) before spent y)
    (hsame : walk tolerance limit [] more t = walk tolerance limit [] less t →
      y.result = x.result) : IsCutOf x y := by
  refine ⟨fun hnot => ?_, ?_⟩
  · have hending : (walk tolerance limit [] less t).ending ≠ .exhausted :=
      fun hending => hnot ⟨_, (hx.out_iff _).mpr ⟨hending, rfl⟩⟩
    have hwalk := walk_eq_of_ne_exhausted hle hending
    exact ⟨hsame hwalk, by rw [hx.pivots_eq, hy.pivots_eq, hwalk]⟩
  · rw [hx.pivots_eq, hy.pivots_eq]
    exact Walk.pivots_prefix_of_exchanges (exchanges_prefix_of_le hle) before

end Budget

/-! ### The solver under a budget -/

namespace Solver

/-- The solver with a budget of so many pivots. -/
def within {α : Type} (solver : Solver α) (budget : Nat) : Solver α :=
  { solver with maxIterations := some budget }

@[simp] theorem tolerance_within (solver : Solver α) (budget : Nat) :
    (solver.within budget).tolerance = solver.tolerance := rfl

@[simp] theorem phaseOne_within (solver : Solver α) (budget : Nat) :
    (solver.within budget).phaseOne = solver.phaseOne := rfl

@[simp] theorem budget_within (solver : Solver α) (budget : Nat) (p : Problem α) :
    (solver.within budget).budget p = budget := rfl

variable [Arithmetic α] (solver : Solver α) {p : Problem α}

/-- What the first phase concludes from its walk. -/
theorem concludes_findFeasible (budget : Nat) (artificialCosts costs : Equation α p.shape.columns)
    (t : Tableau α p.shape) :
    Concludes (walk solver.tolerance p.shape.proper [] budget
        { t with costs := t.priceArtificial artificialCosts }) 0 Prod.snd
      (solver.findFeasible budget artificialCosts costs t) := by
  unfold findFeasible
  generalize walk solver.tolerance p.shape.proper [] budget
    { t with costs := t.priceArtificial artificialCosts } = w
  dsimp only
  cases hending : w.ending with
  | unbounded c => exact ⟨w.filter_pivots 0, by simp [hending], nofun⟩
  | exhausted =>
      refine ⟨w.filter_pivots 0, fun n => ?_, nofun⟩
      simp [hending, eq_comm]
  | optimal =>
      dsimp only
      split
      · refine ⟨?_, by simp [hending], nofun⟩
        rw [Logged.pivots, List.filter_append, w.filter_pivots]
        exact List.append_nil _
      · refine ⟨w.filter_pivots 0, by simp [hending], fun b hok => ?_⟩
        obtain rfl := Except.ok.inj hok
        exact (Nat.zero_add _).symm

/-- What the second phase concludes from its walk. -/
theorem concludes_optimize (t : Tableau α p.shape) (before : Nat) :
    Concludes (walk solver.tolerance p.shape.proper [] (solver.budget p - before) t) before
      Solution.iterations (solver.optimize p t before) := by
  unfold optimize
  generalize walk solver.tolerance p.shape.proper [] (solver.budget p - before) t = w
  have hpivots : ∀ (result : Except (SolveError α) (Solution α)) (event : Event α),
      event.isPivot = false →
        (⟨result, w.pivots before ++ [event]⟩ : Logged α _).pivots = w.pivots before := by
    intro result event hevent
    rw [Logged.pivots, List.filter_append, w.filter_pivots, List.filter_singleton, hevent]
    exact List.append_nil _
  dsimp only
  cases hending : w.ending with
  | unbounded c => exact ⟨hpivots _ _ rfl, by simp [hending], nofun⟩
  | exhausted =>
      refine ⟨hpivots _ _ rfl, fun n => ?_, nofun⟩
      simp [hending, eq_comm]
  | optimal =>
      refine ⟨hpivots _ _ rfl, by simp [hending], fun b hok => ?_⟩
      obtain rfl := Except.ok.inj hok
      rfl

/-- The second phase follows the first one if that was a success. -/
theorem solveAccepted_eq : solver.solveAccepted p
    = (solver.prepare p).andThenOk fun found => solver.optimize p found.1 found.2 := by
  unfold solveAccepted Logged.andThenOk
  congr 1
  funext result
  cases result <;> rfl

/-- A larger budget lets the first phase come further. -/
theorem isCutOf_findFeasible {less more : Nat} (h : less ≤ more)
    (artificialCosts costs : Equation α p.shape.columns) (t : Tableau α p.shape) :
    IsCutOf (solver.findFeasible less artificialCosts costs t)
      (solver.findFeasible more artificialCosts costs t) := by
  refine Concludes.isCutOf h (solver.concludes_findFeasible less _ _ _)
    (solver.concludes_findFeasible more _ _ _) fun hwalk => ?_
  rw [findFeasible, findFeasible, hwalk]

/-- A larger budget lets the second phase come further. -/
theorem isCutOf_optimize {less more : Nat} (h : less ≤ more)
    (t : Tableau α p.shape) (before : Nat) :
    IsCutOf ((solver.within less).optimize p t before)
      ((solver.within more).optimize p t before) := by
  refine Concludes.isCutOf (Nat.sub_le_sub_right h before)
    ((solver.within less).concludes_optimize t before)
    ((solver.within more).concludes_optimize t before) fun hwalk => ?_
  simp only [tolerance_within] at hwalk
  simp only [optimize, tolerance_within, budget_within, hwalk]

theorem keepsTo_prepare (p : Problem α) (budget : Nat) :
    KeepsTo 0 budget Prod.snd ((solver.within budget).prepare p) := by
  unfold prepare
  split
  · refine KeepsTo.quiet (Nat.zero_le budget) (fun ⟨_, hn⟩ => nomatch hn) fun b hok => ?_
    obtain rfl := Except.ok.inj hok
    rfl
  · exact ((solver.within budget).concludes_findFeasible budget _ _ _).keepsTo
      (Nat.zero_add budget)

theorem isCutOf_prepare (p : Problem α) {less more : Nat} (h : less ≤ more) :
    IsCutOf ((solver.within less).prepare p) ((solver.within more).prepare p) := by
  unfold prepare
  split
  · exact IsCutOf.refl _
  · exact solver.isCutOf_findFeasible h _ _ _

/-- **The solver keeps to its budget.** -/
theorem keepsTo_solve (p : Problem α) (budget : Nat) :
    KeepsTo 0 budget Solution.iterations ((solver.within budget).solve p) := by
  unfold solve
  split
  · exact KeepsTo.quiet (Nat.zero_le budget) (fun ⟨_, hn⟩ => nomatch hn) nofun
  · rw [solveAccepted_eq]
    have haccepted : KeepsTo 0 budget Solution.iterations _ :=
      (solver.keepsTo_prepare p budget).andThenOk fun found _ hle =>
        ((solver.within budget).concludes_optimize found.1 found.2).keepsTo
          (Nat.add_sub_cancel' hle)
    exact ⟨haccepted.numbered, haccepted.within, haccepted.spent_eq, haccepted.used⟩

/-- **A larger budget lets the solver come further**, and changes nothing else. -/
theorem isCutOf_solve (p : Problem α) {less more : Nat} (h : less ≤ more) :
    IsCutOf ((solver.within less).solve p) ((solver.within more).solve p) := by
  have haccepted : IsCutOf ((solver.within less).solveAccepted p)
      ((solver.within more).solveAccepted p) := by
    rw [solveAccepted_eq, solveAccepted_eq]
    exact (solver.isCutOf_prepare p h).andThenOk fun found _ =>
      solver.isCutOf_optimize h found.1 found.2
  unfold solve
  simp only [phaseOne_within]
  cases p.fault? solver.phaseOne with
  | some fault => exact IsCutOf.refl _
  | none => exact ⟨haccepted.settled, haccepted.grows⟩

/-- **What a budget of pivots decides**, in every arithmetic. A result that the budget was used up
names the budget. Every other result is the same under every larger budget. A solution was found
within the budget, and a budget smaller than its number of pivots is used up. The pivots are
numbered through both phases without a gap, a larger budget adds further ones behind them, and a
solution, as well as a budget that was used up, tells their number. -/
theorem solve_budget_laws (p : Problem α) {less more : Nat} (h : less ≤ more) :
    (∀ n, ((solver.within less).solve p).result = .error (.didNotConverge n) → n = less) ∧
    ((∀ n, ((solver.within less).solve p).result ≠ .error (.didNotConverge n)) →
      ((solver.within more).solve p).result = ((solver.within less).solve p).result) ∧
    (∀ solution, ((solver.within less).solve p).result = .ok solution →
      solution.iterations ≤ less ∧ ∀ fewer < solution.iterations,
        ((solver.within fewer).solve p).result = .error (.didNotConverge fewer)) ∧
    ((solver.within less).solve p).pivots.map Event.iteration?
        = (List.range ((solver.within less).solve p).pivots.length).map some ∧
    ((solver.within less).solve p).pivots <+: ((solver.within more).solve p).pivots ∧
    (∀ solution, ((solver.within less).solve p).result = .ok solution →
      ((solver.within less).solve p).pivots.length = solution.iterations) ∧
    (∀ n, ((solver.within less).solve p).result = .error (.didNotConverge n) →
      ((solver.within less).solve p).pivots.length = less) := by
  have hkeeps := solver.keepsTo_solve p less
  have hcut := solver.isCutOf_solve p h
  have hlength : ∀ solution, ((solver.within less).solve p).result = .ok solution →
      ((solver.within less).solve p).pivots.length = solution.iterations :=
    fun solution hok => ((hkeeps.spent_eq solution hok).trans (Nat.zero_add _)).symm
  refine ⟨?_, ?_, ?_, ?_, hcut.grows, hlength, ?_⟩
  · intro n hn
    exact (hkeeps.used n hn).1
  · intro hnot
    exact (hcut.settled fun ⟨n, hn⟩ => hnot n hn).1
  · intro solution hok
    have hwithin : solution.iterations ≤ less := by
      have := hkeeps.within
      rw [hlength solution hok] at this
      omega
    refine ⟨hwithin, fun fewer hfewer => ?_⟩
    exact (solver.isCutOf_solve p (by omega)).eq_didNotConverge (solver.keepsTo_solve p fewer)
      hkeeps hok hfewer
  · rw [hkeeps.numbered, List.range_eq_range']
  · intro n hn
    rw [← Nat.zero_add (List.length _), (hkeeps.used n hn).2]

/-- A problem of floating-point numbers that takes one pivot in the first phase and three in the
second. -/
def climbing : Problem Float where
  objective := [3, 2]
  maximize := true
  rows := [⟨"sum", [1, 1], .atMost, 4⟩, ⟨"least", [1, 0], .atLeast, 1⟩, ⟨"mix", [1, 2], .atMost, 6⟩]

/-- The solver with the standard tolerance that accepts every form, with a budget. -/
def climber (budget : Nat) : Solver Float := within { standard with phaseOne := true } budget

theorem solve_climbing : ((climber 4).solve climbing).result = .ok
    { values := [4, 0]
      objective := 12
      iterations := 4
      rows := [⟨"sum", 4, 0, 3, true⟩, ⟨"least", 4, 3, 0, false⟩, ⟨"mix", 4, 2, 0, false⟩] } := by
  decide +kernel

/-- The first phase has used up a budget of one pivot, which is noticed in the second. -/
theorem solve_climbing_budget_laws :
    (((climber 1).solve climbing).result = .error (.didNotConverge 1) ∧
      ((climber 1).solve climbing).pivots.length = 1 ∧
      ((climber 1).solve climbing).pivots <+: ((climber 4).solve climbing).pivots) ∧
    ∃ solution, ((climber 4).solve climbing).result = .ok solution ∧ solution.iterations = 4 ∧
      ((climber 9).solve climbing).result = .ok solution ∧
      ((climber 3).solve climbing).result = .error (.didNotConverge 3) ∧
      ((climber 4).solve climbing).pivots.length = 4 := by
  have hone : ((climber 1).solve climbing).result = .error (.didNotConverge 1) := by
    decide +kernel
  obtain ⟨-, -, -, -, hgrows, -, hused⟩ :=
    solve_budget_laws (climber 1) climbing (show 1 ≤ 4 by decide)
  obtain ⟨-, hsettled, hspent, -, -, hlength, -⟩ :=
    solve_budget_laws (climber 4) climbing (show 4 ≤ 9 by decide)
  have hnot : ∀ n, ((climber 4).solve climbing).result ≠ .error (.didNotConverge n) := by
    intro n hn
    cases solve_climbing.symm.trans hn
  exact ⟨⟨hone, hused 1 hone, hgrows⟩, _, solve_climbing, rfl,
    (hsettled hnot).trans solve_climbing, (hspent _ solve_climbing).2 3 (by decide),
    hlength _ solve_climbing⟩

end Solver

end LinearProgram

end Baggage
