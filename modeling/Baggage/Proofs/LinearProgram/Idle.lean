import Baggage.LinearProgram.Solver
import Baggage.Proofs.LinearProgram.Phase

/-!
# Baggage.Proofs.LinearProgram.Idle

**Artificial columns that are still basic after the first phase.** An equation is *idle* if its
basic column is artificial and it has zeros in all proper columns. No pivot in a proper column
changes an idle equation, whatever row the pivot is in (`IsIdleAt.pivot`), so exchanging the
artificial columns row after row leaves idle equations only (`isIdleAt_driveOut`).

If moreover all artificial columns are zero at the vertex, the tableau is `IsIdle`: the second
phase then moves among admissible points, which is why the artificial columns may be forgotten.
-/

namespace Baggage.LinearProgram

namespace Tableau

variable {s : Shape} {t : Tableau ℚ s}

/-- If the basic column of a row is artificial, the row has zeros in all proper columns. -/
def IsIdleAt (t : Tableau ℚ s) (i : Fin s.rows) : Prop :=
  s.proper ≤ (t.basicColumn i).val → ∀ j : Fin s.columns, j.val < s.proper → t.entry i j = 0

/-- Basic columns that are artificial are zero at the vertex. -/
def HasNoArtificials (t : Tableau ℚ s) : Prop :=
  ∀ i, s.proper ≤ (t.basicColumn i).val → t.bound i = 0

/-- Artificial columns that are basic and not zero stand in idle equations. -/
def HasIdleResidue (t : Tableau ℚ s) : Prop := ∀ i, t.bound i ≠ 0 → t.IsIdleAt i

/-- Artificial columns that are basic have no influence on the proper ones. -/
structure IsIdle (t : Tableau ℚ s) : Prop where
  /-- They are zero at the vertex. -/
  hasNoArtificials : t.HasNoArtificials
  /-- Their equations have zeros in all proper columns. -/
  isIdleAt : ∀ i, t.IsIdleAt i

/-! ### Pivots in proper columns -/

/-- After a pivot in a proper column only the other rows can have an artificial basic column. -/
theorem basicColumn_of_proper_le_pivot {r i : Fin s.rows} {c : Fin s.columns}
    (hc : c.val < s.proper) (h : s.proper ≤ ((t.pivot r c).basicColumn i).val) :
    i ≠ r ∧ s.proper ≤ (t.basicColumn i).val := by
  have hne : i ≠ r := by
    rintro rfl
    rw [basicColumn_pivot_self] at h
    exact absurd hc (not_lt.mpr h)
  rw [basicColumn_pivot_of_ne t r c hne] at h
  exact ⟨hne, h⟩

theorem IsIdleAt.pivot {r i : Fin s.rows} {c : Fin s.columns} (h : t.IsIdleAt i)
    (hc : c.val < s.proper) : (t.pivot r c).IsIdleAt i := by
  intro hbasic j hj
  obtain ⟨hne, hold⟩ := basicColumn_of_proper_le_pivot hc hbasic
  rw [entry_pivot_of_ne t r c hne, h hold j hj, h hold c hc, zero_mul, sub_zero]

/-- The right-hand side of an idle equation stays as it is. -/
theorem IsIdleAt.bound_pivot {r i : Fin s.rows} {c : Fin s.columns} (h : t.IsIdleAt i)
    (hc : c.val < s.proper) (hbasic : s.proper ≤ ((t.pivot r c).basicColumn i).val) :
    (t.pivot r c).bound i = t.bound i := by
  obtain ⟨hne, hold⟩ := basicColumn_of_proper_le_pivot hc hbasic
  rw [bound_pivot_of_ne t r c hne, h hold c hc, zero_mul, sub_zero]

theorem IsIdle.pivot {r : Fin s.rows} {c : Fin s.columns} (h : t.IsIdle)
    (hc : c.val < s.proper) : (t.pivot r c).IsIdle := by
  refine ⟨fun i hbasic => ?_, fun i => (h.isIdleAt i).pivot hc⟩
  rw [(h.isIdleAt i).bound_pivot hc hbasic]
  exact h.hasNoArtificials i (basicColumn_of_proper_le_pivot hc hbasic).2

theorem IsIdle.walk (h : t.IsIdle) (made : List (Fin s.rows × Fin s.columns)) (budget : Nat) :
    (LinearProgram.walk 0 s.proper made budget t).tableau.IsIdle := by
  refine walk_induction (fun u r c hu hmove => ?_) made budget h
  exact hu.pivot (isPivot_of_move hmove).column_lt

/-! ### Exchanging artificial columns -/

/-- A row is left alone if its basic column is proper or no entry in a proper column exceeds the
tolerance, and otherwise solved for the first column with such an entry. -/
theorem driveOutRow_cases (tolerance : ℚ) (t : Tableau ℚ s) (i : Fin s.rows) :
    (t.driveOutRow tolerance i = t ∧ (s.proper ≤ (t.basicColumn i).val →
        ∀ j : Fin s.columns, j.val < s.proper → |t.entry i j| ≤ tolerance)) ∨
      ∃ c : Fin s.columns, t.driveOutRow tolerance i = t.pivot i c ∧
        s.proper ≤ (t.basicColumn i).val ∧ c.val < s.proper ∧ tolerance < |t.entry i c| := by
  unfold driveOutRow
  split
  · next hbasic => exact Or.inl ⟨rfl, fun h => absurd hbasic (not_lt.mpr h)⟩
  · next hbasic =>
      dsimp only
      split
      · next hnone =>
          refine Or.inl ⟨rfl, fun _ j hj => ?_⟩
          have hj' := List.find?_eq_none.mp hnone j (List.mem_finRange j)
          simp only [Bool.and_eq_true, decide_eq_true_eq, Arithmetic.rat_lt, Arithmetic.rat_abs,
            not_and, not_lt] at hj'
          exact hj' hj
      · next c hsome =>
          have hc := List.find?_some hsome
          simp only [Bool.and_eq_true, decide_eq_true_eq, Arithmetic.rat_lt,
            Arithmetic.rat_abs] at hc
          exact Or.inr ⟨c, rfl, not_lt.mp hbasic, hc.1, hc.2⟩

/-- A property that every pivot of an artificial row in a proper column keeps is kept by exchanging
the artificial columns of any rows. -/
theorem foldl_driveOutRow_induction {tolerance : ℚ} {motive : Tableau ℚ s → Prop}
    (step : ∀ u i c, motive u → s.proper ≤ (u.basicColumn i).val → c.val < s.proper →
      tolerance < |u.entry i c| → motive (u.pivot i c))
    (rows : List (Fin s.rows)) {t : Tableau ℚ s} (ht : motive t) :
    motive (rows.foldl (driveOutRow tolerance) t) := by
  induction rows generalizing t with
  | nil => exact ht
  | cons i rest ih =>
      rw [List.foldl_cons]
      apply ih
      rcases t.driveOutRow_cases tolerance i with ⟨hsame, -⟩ | ⟨c, hpivot, hbasic, hc, hentry⟩
      · rw [hsame]
        exact ht
      · rw [hpivot]
        exact step t i c ht hbasic hc hentry

theorem isIdleAt_driveOutRow (t : Tableau ℚ s) (i : Fin s.rows) :
    (t.driveOutRow 0 i).IsIdleAt i := by
  rcases t.driveOutRow_cases 0 i with ⟨hsame, hzero⟩ | ⟨c, hpivot, -, hc, -⟩
  · rw [hsame]
    exact fun hbasic j hj => abs_nonpos_iff.mp (hzero hbasic j hj)
  · rw [hpivot]
    intro hbasic
    exact absurd rfl (basicColumn_of_proper_le_pivot hc hbasic).1

/-- **Exchanging the artificial columns leaves idle equations only.** Each row is idle once it was
its turn, and the pivots in later rows keep it so. -/
theorem isIdleAt_driveOut (t : Tableau ℚ s) (i : Fin s.rows) : (t.driveOut 0).IsIdleAt i := by
  -- the rows before it do not matter: `i` is idle after its own turn, whatever came before
  obtain ⟨seen, rest, hsplit⟩ := List.append_of_mem (List.mem_finRange i)
  rw [driveOut, hsplit, List.foldl_append, List.foldl_cons]
  exact foldl_driveOutRow_induction (motive := fun u => u.IsIdleAt i)
    (fun u r c hu _ hc _ => hu.pivot hc) rest (isIdleAt_driveOutRow _ i)

/-- A pivot in a row with a right-hand side of zero changes no right-hand side. -/
theorem bound_pivot_of_bound_eq_zero {r : Fin s.rows} {c : Fin s.columns} (h : t.bound r = 0)
    (i : Fin s.rows) : (t.pivot r c).bound i = t.bound i := by
  by_cases hi : i = r
  · subst hi
    rw [bound_pivot_self, h, zero_div]
  · rw [bound_pivot_of_ne t r c hi, h, zero_div, mul_zero, sub_zero]

theorem HasNoArtificials.hasIdleResidue (h : t.HasNoArtificials) : t.HasIdleResidue :=
  fun i hne hbasic => absurd (h i hbasic) hne

/-- A row whose artificial column can be exchanged is not idle, so its right-hand side is zero. -/
theorem HasIdleResidue.bound_eq_zero (h : t.HasIdleResidue) {i : Fin s.rows} {c : Fin s.columns}
    (hbasic : s.proper ≤ (t.basicColumn i).val) (hc : c.val < s.proper) (hne : t.entry i c ≠ 0) :
    t.bound i = 0 := by
  by_contra hbound
  exact hne (h i hbound hbasic c hc)

theorem HasIdleResidue.pivot (h : t.HasIdleResidue) {r : Fin s.rows} {c : Fin s.columns}
    (hr : t.bound r = 0) (hc : c.val < s.proper) : (t.pivot r c).HasIdleResidue := by
  intro i hbound
  rw [bound_pivot_of_bound_eq_zero hr] at hbound
  exact (h i hbound).pivot hc

/-! ### Points of an idle tableau -/

theorem IsIdle.isAdmissible_vertex (h : t.IsIdle) (hfeas : t.IsFeasible) :
    s.IsAdmissible t.vertex := by
  refine ⟨t.basicPoint_nonneg hfeas, fun j hj => t.vertex_eq_zero fun i hi => ?_⟩
  subst hi
  exact h.hasNoArtificials i hj

/-- A proper column that no equation bounds can grow without end, and the artificial columns stay
zero. -/
theorem IsIdle.isAdmissible_ray (h : t.IsIdle) (hfeas : t.IsFeasible) {c : Fin s.columns}
    (hc : c.val < s.proper) (hentry : ∀ i, t.entry i c ≤ 0) {x : ℚ} (hx : 0 ≤ x) :
    s.IsAdmissible (t.ray c x) := by
  refine ⟨ray_nonneg hfeas hentry hx, fun j hj => ?_⟩
  have hne : j ≠ c := by
    rintro rfl
    exact absurd hc (not_lt.mpr hj)
  refine ray_eq_zero hne fun i hi => ?_
  subst hi
  exact ⟨h.hasNoArtificials i hj, h.isIdleAt i hj c hc⟩

end Tableau

namespace Problem

variable {p : Problem ℚ} {objective : Equation ℚ p.shape.columns} {t : Tableau ℚ p.shape}

/-- **Exchanging the artificial columns** where all that are not zero stand in idle equations stays
within the phase and changes no right-hand side. The entry that a pivot is made on may be negative:
the right-hand side of its row is zero. -/
theorem IsPhase.driveOut_of_hasIdleResidue (h : p.IsPhase objective t) (hidle : t.HasIdleResidue) :
    p.IsPhase objective (t.driveOut 0) ∧ ∀ i, (t.driveOut 0).bound i = t.bound i ∧
      (p.shape.proper ≤ ((t.driveOut 0).basicColumn i).val →
        p.shape.proper ≤ (t.basicColumn i).val) := by
  have hrun : p.IsPhase objective (t.driveOut 0) ∧ (t.driveOut 0).HasIdleResidue ∧
      ∀ i, (t.driveOut 0).bound i = t.bound i ∧
        (p.shape.proper ≤ ((t.driveOut 0).basicColumn i).val →
          p.shape.proper ≤ (t.basicColumn i).val) := by
    refine Tableau.foldl_driveOutRow_induction (motive := fun u => p.IsPhase objective u ∧
      u.HasIdleResidue ∧ ∀ i, u.bound i = t.bound i ∧
        (p.shape.proper ≤ (u.basicColumn i).val → p.shape.proper ≤ (t.basicColumn i).val))
      ?_ _ ⟨h, hidle, fun i => ⟨rfl, id⟩⟩
    rintro u r c ⟨hphase, hu, hsame⟩ hbasic hc hentry
    have hne : u.entry r c ≠ 0 := abs_pos.mp hentry
    have hzero : u.bound r = 0 := hu.bound_eq_zero hbasic hc hne
    have hbound : ∀ i, (u.pivot r c).bound i = u.bound i :=
      Tableau.bound_pivot_of_bound_eq_zero hzero
    have hfeas : (u.pivot r c).IsFeasible := by
      intro i
      rw [hbound]
      exact hphase.isFeasible i
    refine ⟨hphase.pivot_of_isFeasible hne hfeas, hu.pivot hzero hc, fun i => ?_⟩
    rw [hbound, (hsame i).1]
    exact ⟨rfl, fun hi => (hsame i).2 (Tableau.basicColumn_of_proper_le_pivot hc hi).2⟩
  exact ⟨hrun.1, hrun.2.2⟩

/-- If the artificial columns are all zero, none of them has any influence afterwards. -/
theorem IsPhase.driveOut (h : p.IsPhase objective t) (hzero : t.HasNoArtificials) :
    p.IsPhase objective (t.driveOut 0) ∧ (t.driveOut 0).IsIdle := by
  obtain ⟨hphase, hrows⟩ := h.driveOut_of_hasIdleResidue hzero.hasIdleResidue
  refine ⟨hphase, fun i hbasic => ?_, t.isIdleAt_driveOut⟩
  rw [(hrows i).1]
  exact hzero i ((hrows i).2 hbasic)

/-- The point where a proper column that no equation bounds has grown is feasible. -/
theorem IsPhase.isFeasible_ray (h : p.IsPhase objective t) (hidle : t.IsIdle)
    {c : Fin p.shape.columns} (hc : c.val < p.shape.proper) (hentry : ∀ i, t.entry i c ≤ 0) {x : ℚ}
    (hx : 0 ≤ x) : p.IsFeasible (p.point (t.ray c x)) := by
  have hsolves : p.start.Solves (t.ray c x) :=
    h.isFormOf.solves_iff.mp (h.isFormOf.solved.solves_ray c x)
  exact p.isFeasible_point hsolves (hidle.isAdmissible_ray h.isFeasible hc hentry hx)

/-- The vertex of an idle tableau is feasible. -/
theorem IsPhase.isFeasible_vertex (h : p.IsPhase objective t) (hidle : t.IsIdle) :
    p.IsFeasible (p.point t.vertex) := by
  have hsolves : p.start.Solves t.vertex :=
    h.isFormOf.solves_iff.mp h.isFormOf.solved.solves_vertex
  exact p.isFeasible_point hsolves (hidle.isAdmissible_vertex h.isFeasible)

end Problem

end Baggage.LinearProgram
