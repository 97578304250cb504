import Baggage.LinearProgram.Walk
import Baggage.Proofs.LinearProgram.RowSpace

/-!
# Baggage.Proofs.LinearProgram.Move

**What a move is chosen by**, and what a walk of moves keeps. `move_spec` says all that is known of
the three kinds of moves: which costs are negative, how the ratio test chose the leaving row, and
why a column is bounded by none. `walk_induction` carries a property of tableaus along a walk, and
`walk_fits` relates the end of a walk to the move that would come next.

No right-hand side becomes negative exactly if the pivot is in the tightest row of all
(`isFeasible_pivot_iff`), which with a tolerance of zero the ratio test finds
(`IsPivot.isFeasible`).
-/

namespace Baggage.LinearProgram

namespace Tableau

variable {s : Shape}

/-! ### The ratio test -/

/-- What the ratio test holds after it has seen some rows: a row of least ratio among those whose
entry exceeds the tolerance, if there are any. -/
def LeastRatio (tolerance : ℚ) (t : Tableau ℚ s) (c : Fin s.columns) (seen : List (Fin s.rows)) :
    Option (Fin s.rows × ℚ) → Prop
  | none => ∀ i ∈ seen, t.entry i c ≤ tolerance
  | some (r, least) =>
      tolerance < t.entry r c ∧ least = t.bound r / t.entry r c ∧
        ∀ i ∈ seen, tolerance < t.entry i c → least ≤ t.bound i / t.entry i c

theorem betterRow_of_le {tolerance : ℚ} {t : Tableau ℚ s} {c : Fin s.columns} {i : Fin s.rows}
    (h : t.entry i c ≤ tolerance) (best : Option (Fin s.rows × ℚ)) :
    t.betterRow tolerance c best i = best := by
  simp [betterRow, h]

theorem betterRow_none_of_lt {tolerance : ℚ} {t : Tableau ℚ s} {c : Fin s.columns}
    {i : Fin s.rows} (h : tolerance < t.entry i c) :
    t.betterRow tolerance c none i = some (i, t.bound i / t.entry i c) := by
  simp [betterRow, h]

theorem betterRow_some_of_lt {tolerance : ℚ} {t : Tableau ℚ s} {c : Fin s.columns}
    {i : Fin s.rows} (h : tolerance < t.entry i c) (r : Fin s.rows) (least : ℚ) :
    t.betterRow tolerance c (some (r, least)) i
      = if t.bound i / t.entry i c < least then some (i, t.bound i / t.entry i c)
        else some (r, least) := by
  simp [betterRow, h]

/-- One more row is compared with the best of those before it. -/
theorem LeastRatio.betterRow {tolerance : ℚ} {t : Tableau ℚ s} {c : Fin s.columns}
    {seen : List (Fin s.rows)} {best : Option (Fin s.rows × ℚ)}
    (h : LeastRatio tolerance t c seen best) (i : Fin s.rows) :
    LeastRatio tolerance t c (seen ++ [i]) (t.betterRow tolerance c best i) := by
  rcases le_or_gt (t.entry i c) tolerance with hle | hgt
  · -- a row with too small an entry does not count, neither now nor later
    rw [betterRow_of_le hle]
    cases best with
    | none => exact List.forall_mem_append.mpr ⟨h, List.forall_mem_singleton.mpr hle⟩
    | some found =>
        obtain ⟨hentry, hleast, hmin⟩ := h
        refine ⟨hentry, hleast, List.forall_mem_append.mpr ⟨hmin, ?_⟩⟩
        exact List.forall_mem_singleton.mpr fun hlt => absurd hle (not_le.mpr hlt)
  · cases best with
    | none =>
        rw [betterRow_none_of_lt hgt]
        refine ⟨hgt, rfl, List.forall_mem_append.mpr ⟨?_, List.forall_mem_singleton.mpr ?_⟩⟩
        · exact fun k hk hlt => absurd (h k hk) (not_le.mpr hlt)
        · exact fun _ => le_rfl
    | some found =>
        obtain ⟨r, least⟩ := found
        obtain ⟨hentry, hleast, hmin⟩ := h
        rw [betterRow_some_of_lt hgt]
        split
        · next hbetter =>
            refine ⟨hgt, rfl, List.forall_mem_append.mpr ⟨?_, List.forall_mem_singleton.mpr ?_⟩⟩
            · exact fun k hk hlt => le_trans hbetter.le (hmin k hk hlt)
            · exact fun _ => le_rfl
        · next hworse =>
            refine ⟨hentry, hleast, List.forall_mem_append.mpr ⟨hmin, ?_⟩⟩
            exact List.forall_mem_singleton.mpr fun _ => not_lt.mp hworse

theorem leastRatio_foldl (tolerance : ℚ) (t : Tableau ℚ s) (c : Fin s.columns)
    (rows : List (Fin s.rows)) :
    LeastRatio tolerance t c rows (rows.foldl (t.betterRow tolerance c) none) := by
  induction rows using List.reverseRecOn with
  | nil => exact fun i hi => absurd hi List.not_mem_nil
  | append_singleton rows i ih =>
      rw [List.foldl_append]
      exact ih.betterRow i

/-- Without a leaving row, no entry of the column exceeds the tolerance. -/
theorem entry_le_of_leaving?_eq_none {tolerance : ℚ} {t : Tableau ℚ s} {c : Fin s.columns}
    (h : t.leaving? tolerance c = none) (i : Fin s.rows) : t.entry i c ≤ tolerance := by
  have hleast := leastRatio_foldl tolerance t c (List.finRange s.rows)
  rw [Option.map_eq_none_iff.mp h] at hleast
  exact hleast i (List.mem_finRange i)

/-- The leaving row has an entry that exceeds the tolerance, and the least ratio of such rows. -/
theorem leaving?_eq_some {tolerance : ℚ} {t : Tableau ℚ s} {c : Fin s.columns} {r : Fin s.rows}
    (h : t.leaving? tolerance c = some r) :
    tolerance < t.entry r c ∧ ∀ i, tolerance < t.entry i c →
      t.bound r / t.entry r c ≤ t.bound i / t.entry i c := by
  obtain ⟨⟨r', least⟩, hfold, hr⟩ := Option.map_eq_some_iff.mp h
  have hleast := leastRatio_foldl tolerance t c (List.finRange s.rows)
  rw [hfold] at hleast
  obtain ⟨hentry, hratio, hmin⟩ := hleast
  obtain rfl : r' = r := hr
  exact ⟨hentry, fun i hi => hratio ▸ hmin i (List.mem_finRange i) hi⟩

/-! ### The entering column -/

theorem entering?_eq_some {tolerance : ℚ} {limit : Nat} {t : Tableau ℚ s} {c : Fin s.columns}
    (h : t.entering? tolerance limit = some c) : c.val < limit ∧ t.cost c < -tolerance := by
  have hfound := List.find?_some h
  simp only [Bool.and_eq_true, decide_eq_true_eq, Arithmetic.rat_lt] at hfound
  exact hfound

theorem entering?_eq_none {tolerance : ℚ} {limit : Nat} {t : Tableau ℚ s}
    (h : t.entering? tolerance limit = none) (j : Fin s.columns) (hj : j.val < limit) :
    -tolerance ≤ t.cost j := by
  have hnone := List.find?_eq_none.mp h j (List.mem_finRange j)
  simp only [Bool.and_eq_true, decide_eq_true_eq, Arithmetic.rat_lt, not_and] at hnone
  exact not_lt.mp (hnone hj)

/-! ### Moves -/

/-- A row and a column that the rules of the method let be exchanged. -/
structure IsPivot (tolerance : ℚ) (limit : Nat) (t : Tableau ℚ s) (r : Fin s.rows)
    (c : Fin s.columns) : Prop where
  /-- The column may enter. -/
  column_lt : c.val < limit
  /-- The cost of the column is negative. -/
  cost_lt : t.cost c < -tolerance
  /-- The entry exceeds the tolerance. -/
  lt_entry : tolerance < t.entry r c
  /-- No row with such an entry has a smaller ratio. -/
  ratio_le : ∀ i, tolerance < t.entry i c → t.bound r / t.entry r c ≤ t.bound i / t.entry i c

/-- What is known of a tableau whose next move this is. -/
def MoveSpec (tolerance : ℚ) (limit : Nat) (t : Tableau ℚ s) : Move s → Prop
  | .optimal => ∀ j : Fin s.columns, j.val < limit → -tolerance ≤ t.cost j
  | .unbounded c => c.val < limit ∧ t.cost c < -tolerance ∧ ∀ i, t.entry i c ≤ tolerance
  | .pivot r c => IsPivot tolerance limit t r c

/-- **The choice of a move.** -/
theorem move_spec (t : Tableau ℚ s) (tolerance : ℚ) (limit : Nat) :
    MoveSpec tolerance limit t (t.move tolerance limit) := by
  unfold move
  cases hcol : t.entering? tolerance limit with
  | none => exact entering?_eq_none hcol
  | some c =>
      obtain ⟨hlt, hcost⟩ := entering?_eq_some hcol
      dsimp only
      cases hrow : t.leaving? tolerance c with
      | none => exact ⟨hlt, hcost, entry_le_of_leaving?_eq_none hrow⟩
      | some r =>
          obtain ⟨hentry, hratio⟩ := leaving?_eq_some hrow
          exact ⟨hlt, hcost, hentry, hratio⟩

theorem isPivot_of_move {t : Tableau ℚ s} {tolerance : ℚ} {limit : Nat} {r : Fin s.rows}
    {c : Fin s.columns} (h : t.move tolerance limit = .pivot r c) :
    IsPivot tolerance limit t r c := by
  have hspec := t.move_spec tolerance limit
  rwa [h] at hspec

/-- The entry of a pivot differs from zero if the tolerance is not negative. -/
theorem IsPivot.entry_ne_zero {tolerance : ℚ} {limit : Nat} {t : Tableau ℚ s} {r : Fin s.rows}
    {c : Fin s.columns} (h : IsPivot tolerance limit t r c) (htol : 0 ≤ tolerance) :
    t.entry r c ≠ 0 :=
  (lt_of_le_of_lt htol h.lt_entry).ne'

/-! ### Feasible tableaus -/

/-- No right-hand side is negative. -/
def IsFeasible (t : Tableau ℚ s) : Prop := ∀ i, 0 ≤ t.bound i

/-- A row has the least ratio of all rows with a positive entry in a column, however small. -/
def IsTightest (t : Tableau ℚ s) (r : Fin s.rows) (c : Fin s.columns) : Prop :=
  ∀ i, 0 < t.entry i c → t.bound r / t.entry r c ≤ t.bound i / t.entry i c

/-- **Only at the least ratio of all** does a pivot keep the right-hand sides from becoming
negative. -/
theorem isFeasible_pivot_iff {t : Tableau ℚ s} {r : Fin s.rows} {c : Fin s.columns}
    (hfeas : t.IsFeasible) (hentry : 0 < t.entry r c) :
    (t.pivot r c).IsFeasible ↔ t.IsTightest r c := by
  constructor
  · intro h i hpos
    by_cases hi : i = r
    · rw [hi]
    · have hbound := h i
      rw [bound_pivot_of_ne t r c hi, sub_nonneg] at hbound
      rwa [le_div_iff₀' hpos]
  · intro h i
    have hratio : 0 ≤ t.bound r / t.entry r c := div_nonneg (hfeas r) hentry.le
    by_cases hi : i = r
    · subst hi
      rw [bound_pivot_self]
      exact hratio
    · rw [bound_pivot_of_ne t r c hi, sub_nonneg]
      -- a row is only lowered where its entry is positive, and there its own ratio bounds the
      -- pivot's
      by_cases hpos : 0 < t.entry i c
      · rw [← le_div_iff₀' hpos]
        exact h i hpos
      · exact le_trans (mul_nonpos_of_nonpos_of_nonneg (not_lt.mp hpos) hratio) (hfeas i)

/-- A pivot at the least ratio keeps the right-hand sides from becoming negative. -/
theorem IsPivot.isFeasible {limit : Nat} {t : Tableau ℚ s} {r : Fin s.rows} {c : Fin s.columns}
    (h : IsPivot 0 limit t r c) (hfeas : t.IsFeasible) : (t.pivot r c).IsFeasible :=
  (isFeasible_pivot_iff hfeas h.lt_entry).mpr h.ratio_le

end Tableau

/-! ### Walks -/

section Walk

variable {α : Type} [Arithmetic α] {s : Shape} {tolerance : α} {limit : Nat}

/-- A property that every pivot of a walk keeps holds at its end. -/
theorem walk_induction {motive : Tableau α s → Prop}
    (step : ∀ t r c, motive t → t.move tolerance limit = .pivot r c → motive (t.pivot r c))
    (made : List (Fin s.rows × Fin s.columns)) (budget : Nat) {t : Tableau α s} (ht : motive t) :
    motive (walk tolerance limit made budget t).tableau := by
  induction budget generalizing made t with
  | zero =>
      unfold walk
      split <;> exact ht
  | succ budget ih =>
      unfold walk
      split
      · exact ht
      · exact ht
      · next r c hmove => exact ih _ (step t r c ht hmove)

/-- How the end of a walk fits the move that would come next. -/
def Ending.Fits : Ending s → Tableau.Move s → Prop
  | .optimal, move => move = .optimal
  | .unbounded c, move => move = .unbounded c
  | .exhausted, move => move ≠ .optimal

theorem walk_fits (made : List (Fin s.rows × Fin s.columns)) (budget : Nat) (t : Tableau α s) :
    (walk tolerance limit made budget t).ending.Fits
      ((walk tolerance limit made budget t).tableau.move tolerance limit) := by
  induction budget generalizing made t with
  | zero =>
      unfold walk
      split
      · next hmove => exact hmove
      · next hmove => exact hmove
  | succ budget ih =>
      unfold walk
      split
      · next hmove => exact hmove
      · next hmove => exact hmove
      · exact ih _ _

end Walk

namespace Walk

variable {s : Shape} {tolerance : ℚ} {limit : Nat} {w : Walk ℚ s}

/-- At an optimum no cost is left that would let a column enter. -/
theorem optimal_spec (hfits : w.ending.Fits (w.tableau.move tolerance limit))
    (h : w.ending = .optimal) (j : Fin s.columns) (hj : j.val < limit) :
    -tolerance ≤ w.tableau.cost j := by
  have hspec := w.tableau.move_spec tolerance limit
  rw [h] at hfits
  rw [hfits] at hspec
  exact hspec j hj

/-- A walk ends without bound at a column that may enter and that no row keeps from growing. -/
theorem unbounded_spec {c : Fin s.columns}
    (hfits : w.ending.Fits (w.tableau.move tolerance limit)) (h : w.ending = .unbounded c) :
    c.val < limit ∧ w.tableau.cost c < -tolerance ∧ ∀ i, w.tableau.entry i c ≤ tolerance := by
  have hspec := w.tableau.move_spec tolerance limit
  rw [h] at hfits
  rw [hfits] at hspec
  exact hspec

end Walk

end Baggage.LinearProgram
