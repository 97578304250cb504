import Baggage.Proofs.Checked
import Baggage.Proofs.Selection.Errors

/-!
# Baggage.Proofs.Selection.Words

**The exact choice in machine words.** The table of `Grid` is a vector of known length, a mark is
found in the layer of its own piece, and differences stop at zero. Here the same choice is made on
two flat tables, the values of the cells and the marks of all pieces one layer behind the other,
with words for all counts (`Layout.select?`). Each sum, product and difference is checked, and each
place in a table. The theorem of this module is that no check fails and that the choice is the same,
in every arithmetic (`select?_eq_some`).

Forwards, every cell that is looked at has room for the piece (`improve?_eq_some`). Backwards, the
steps of a piece are taken off without a look, and this is safe because a piece has marked a cell
only where it had found room (`Grid.fill_isRoomy`).
-/

namespace Baggage.Selection

open Checked

/-! ### The choice on flat tables -/

/-- The sizes by which the tables are laid out. -/
structure Layout where
  /-- The most pieces that can be kept. -/
  pieces : ℕ
  /-- The steps that their weights may add up to. -/
  capacity : ℕ
  /-- The cells for one number of pieces. -/
  width : ℕ
  /-- All cells. -/
  layer : ℕ

/-- The tables of a choice. -/
structure Tables (α : Type) where
  /-- The value of each cell. -/
  best : List α
  /-- The marks of all pieces, one layer behind the other. -/
  marks : List Bool

/-- How far the marks have been followed back. -/
structure Trail where
  /-- Which pieces are kept, as far as this is known. -/
  kept : List Bool
  /-- The pieces that may still be kept. -/
  pieces : ℕ
  /-- The steps that are left for them. -/
  steps : ℕ

namespace Layout

variable {α : Type} [Arithmetic α] (l : Layout)

/-- The place of a cell. -/
def cell? (pieces steps : ℕ) : Option ℕ := do add? (← mul? pieces l.width) steps

/-- The place of the cell that a cell is improved from. -/
def origin? (taken pieces steps : ℕ) : Option ℕ := do
  sub? (← add? (← mul? (← sub? pieces 1) l.width) steps) taken

/-- The place of the mark of a piece on a cell. -/
def mark? (item pieces steps : ℕ) : Option ℕ := do
  add? (← add? (← mul? item l.layer) (← mul? pieces l.width)) steps

/-- Improves a cell by one more piece, and marks it, if it becomes strictly better. -/
def improve? (item taken : ℕ) (value : α) (pieces : ℕ) (t : Tables α) (steps : ℕ) :
    Option (Tables α) := do
  let candidate := (← t.best[← l.origin? taken pieces steps]?) + value
  let cell ← l.cell? pieces steps
  if Arithmetic.lt (← t.best[cell]?) candidate then
    some ⟨← write? t.best cell candidate, ← write? t.marks (← l.mark? item pieces steps) true⟩
  else some t

/-- Tries one more piece in the cells that have room for it, from the last one down. -/
def addPiece? (item taken : ℕ) (value : α) (t : Tables α) : Option (Tables α) :=
  if Arithmetic.le value Arithmetic.zero || l.capacity < taken then some t
  else
    down?
      (fun t pieces => down? (l.improve? item taken value pieces) taken (l.capacity + 1 - taken) t)
      1 l.pieces t

/-- Adds the pieces one after the other, numbered from `item` on. -/
def fill? (item : ℕ) (t : Tables α) : List (Piece α) → Option (Tables α)
  | [] => some t
  | piece :: rest => do
    fill? (item + 1) (← l.addPiece? item (stepsOf piece.weight) piece.value t) rest

/-- Follows the mark of one piece back. -/
def recover? (sizes : List ℕ) (marks : List Bool) (trail : Trail) (item : ℕ) : Option Trail := do
  if 0 < trail.pieces then
    if ← marks[← l.mark? item trail.pieces trail.steps]? then
      some ⟨← write? trail.kept item true, ← sub? trail.pieces 1,
        ← sub? trail.steps (← sizes[item]?)⟩
    else some trail
  else some trail

/-- The most cells that a table may have. -/
def tableLimit : ℕ := 20000000

/-- A table of so many cells, unless they are too many. -/
def table? {β : Type} (cells : ℕ) (item : β) : Option (List β) :=
  if cells ≤ tableLimit then some (List.replicate cells item) else none

/-- Fills the tables, of which the marks take so many cells, and follows the marks back. -/
def choose? (cells : ℕ) (pieces : List (Piece α)) : Option (List Bool) := do
  let t ← l.fill? 0 ⟨← table? l.layer Arithmetic.zero, ← table? cells false⟩ pieces
  let trail ← down? (l.recover? (pieces.map fun piece => stepsOf piece.weight) t.marks) 0
    pieces.length ⟨List.replicate pieces.length false, l.pieces, l.capacity⟩
  some trail.kept

/-- **The exact choice, step by step.** The outer result is about the steps, each of which has to go
through, the inner one about the choice, which is refused if its tables would be too large. -/
def select? (pieces : List (Piece α)) (maxWeight : α) (maxPieces : UInt32) :
    Option (Option (List Bool)) := do
  let most := min maxPieces.toNat pieces.length
  let width := saturated (stepsWithin maxWeight + 1)
  let layer := saturated ((← add? most 1) * width)
  let cells := saturated (pieces.length * layer)
  if tableLimit < cells || tableLimit < layer then some none
  else some (← choose? ⟨most, stepsWithin maxWeight, width, layer⟩ cells pieces)

end Layout

/-! ### Places -/

namespace Grid

/-- The sizes of a grid. -/
def layout (g : Grid) : Layout := ⟨g.pieces, g.capacity, g.width, g.layer⟩

section Places

variable {g : Grid} {pieces steps : ℕ}

theorem cell?_eq_some (hword : g.layer ≤ Exact.largestCount) (hpieces : pieces ≤ g.pieces)
    (hsteps : steps ≤ g.capacity) : g.layout.cell? pieces steps = some (g.cell pieces steps) := by
  have hcell : pieces * g.width + steps < g.layer := cell_lt_layer hpieces hsteps
  have hmul : mul? pieces g.width = some (pieces * g.width) := mul?_of_le (by omega)
  have hadd : add? (pieces * g.width) steps = some (pieces * g.width + steps) :=
    add?_of_le (by omega)
  simp [Layout.cell?, layout, cell, hmul, hadd]

/-- A cell with room for a piece has another one to be improved from. -/
theorem origin?_eq_some (hword : g.layer ≤ Exact.largestCount) (hpieces : pieces < g.pieces)
    (hsteps : steps ≤ g.capacity) {taken : ℕ} (htaken : taken ≤ steps) :
    g.layout.origin? taken (pieces + 1) steps
      = some (g.cell (pieces + 1) steps - g.width - taken) := by
  have hcell : pieces * g.width + steps < g.layer := cell_lt_layer hpieces.le hsteps
  have hmul : mul? pieces g.width = some (pieces * g.width) := mul?_of_le (by omega)
  have hadd : add? (pieces * g.width) steps = some (pieces * g.width + steps) :=
    add?_of_le (by omega)
  have hsub : sub? (pieces * g.width + steps) taken = some (pieces * g.width + steps - taken) :=
    sub?_of_le (by omega)
  have hplace : g.cell (pieces + 1) steps - g.width - taken = pieces * g.width + steps - taken := by
    rw [cell, Nat.succ_mul]
    omega
  simp [Layout.origin?, layout, hmul, hadd, hsub, hplace]

theorem mul_layer_add_lt {n item cell : ℕ} (hitem : item < n) (hcell : cell < g.layer) :
    item * g.layer + cell < n * g.layer :=
  calc item * g.layer + cell
      < item * g.layer + g.layer := Nat.add_lt_add_left hcell _
    _ = (item + 1) * g.layer := (Nat.succ_mul _ _).symm
    _ ≤ n * g.layer := Nat.mul_le_mul_right _ hitem

theorem mul_layer_add_inj {item item' cell cell' : ℕ} (hcell : cell < g.layer)
    (hcell' : cell' < g.layer) :
    item * g.layer + cell = item' * g.layer + cell' ↔ item = item' ∧ cell = cell' := by
  have hdiv : ∀ {i c : ℕ}, c < g.layer → (i * g.layer + c) / g.layer = i := by
    intro i c hc
    rw [Nat.mul_comm, Nat.mul_add_div (Nat.zero_lt_of_lt hc), Nat.div_eq_of_lt hc, Nat.add_zero]
  constructor
  · intro h
    obtain rfl : item = item' :=
      (hdiv hcell).symm.trans ((congrArg (· / g.layer) h).trans (hdiv hcell'))
    exact ⟨rfl, Nat.add_left_cancel h⟩
  · rintro ⟨rfl, rfl⟩
    rfl

theorem mark?_eq_some {n item : ℕ} (hword : n * g.layer ≤ Exact.largestCount) (hitem : item < n)
    (hpieces : pieces ≤ g.pieces) (hsteps : steps ≤ g.capacity) :
    g.layout.mark? item pieces steps = some (item * g.layer + g.cell pieces steps) := by
  have hplace : item * g.layer + (pieces * g.width + steps) < n * g.layer :=
    mul_layer_add_lt hitem (cell_lt_layer hpieces hsteps)
  have hitems : mul? item g.layer = some (item * g.layer) := mul?_of_le (by omega)
  have hmul : mul? pieces g.width = some (pieces * g.width) := mul?_of_le (by omega)
  have hrow : add? (item * g.layer) (pieces * g.width)
      = some (item * g.layer + pieces * g.width) := add?_of_le (by omega)
  have hadd : add? (item * g.layer + pieces * g.width) steps
      = some (item * g.layer + pieces * g.width + steps) := add?_of_le (by omega)
  simp [Layout.mark?, layout, cell, hitems, hmul, hrow, hadd, Nat.add_assoc]

end Places

/-! ### One more piece -/

section Sweep

variable {α : Type} {g : Grid} {n item taken : ℕ} {value : α}

/-- The marks of all pieces, with those of one piece given in a layer of their own. -/
def markedWith (g : Grid) (others : ℕ → ℕ → Bool) (item : ℕ) (marks : Vector Bool g.layer)
    (piece cell : ℕ) : Bool :=
  if piece = item then marks[cell]?.getD false else others piece cell

/-- The mark of a piece on a cell, from the marks of all pieces, the last of them in front. -/
def markIn (g : Grid) (filled : List (ℕ × Option (Vector Bool g.layer))) (item cell : ℕ) : Bool :=
  (filled.reverse[item]?.bind Prod.snd).any fun marks => marks[cell]?.getD false

/-- The flat tables hold these values, and these marks of `n` pieces. -/
structure Shows (g : Grid) (n : ℕ) (t : Tables α) (best : Vector α g.layer)
    (marked : ℕ → ℕ → Bool) : Prop where
  best_eq : t.best = best.toList
  length_marks : t.marks.length = n * g.layer
  getElem?_marks : ∀ piece < n, ∀ cell < g.layer,
    t.marks[piece * g.layer + cell]? = some (marked piece cell)

variable {t : Tables α} {best : Vector α g.layer} {others : ℕ → ℕ → Bool}
  {marks : Vector Bool g.layer}

/-- Tables without values and marks. -/
theorem shows_replicate [Arithmetic α] (n : ℕ) :
    g.Shows n ⟨List.replicate g.layer Arithmetic.zero, List.replicate (n * g.layer) false⟩
      (Vector.replicate g.layer (Arithmetic.zero : α)) (g.markIn []) where
  best_eq := Vector.toList_replicate.symm
  length_marks := List.length_replicate
  getElem?_marks piece hpiece cell hcell := by
    rw [List.getElem?_replicate_of_lt (mul_layer_add_lt hpiece hcell)]
    rfl

theorem Shows.getElem?_best {marked : ℕ → ℕ → Bool} (h : g.Shows n t best marked) {cell : ℕ}
    (hcell : cell < g.layer) : t.best[cell]? = some best[cell] := by
  rw [h.best_eq, Vector.getElem?_toList, Vector.getElem?_eq_getElem hcell]

/-- A value and a mark are written to the same cell. -/
theorem Shows.set (h : g.Shows n t best (g.markedWith others item marks)) (hitem : item < n)
    {cell : ℕ} (hcell : cell < g.layer) (better : α) :
    g.Shows n ⟨t.best.set cell better, t.marks.set (item * g.layer + cell) true⟩
      (best.set cell better) (g.markedWith others item (marks.set cell true)) where
  best_eq := by rw [h.best_eq, Vector.toList_set]
  length_marks := by rw [List.length_set, h.length_marks]
  getElem?_marks := by
    intro piece hpiece other hother
    have hplace : item * g.layer + cell < t.marks.length :=
      h.length_marks ▸ mul_layer_add_lt hitem hcell
    have hold := h.getElem?_marks piece hpiece other hother
    simp only [List.getElem?_set, mul_layer_add_inj hcell hother, hplace, if_true]
    by_cases hsame : item = piece ∧ cell = other
    · obtain ⟨rfl, rfl⟩ := hsame
      simp [markedWith, hcell]
    · rw [if_neg hsame, hold]
      rcases not_and_or.mp hsame with hitems | hcells
      · simp [markedWith, Ne.symm hitems]
      · simp [markedWith, hcells]

variable [Arithmetic α]

theorem improvement?_eq_none {cell : ℕ} {inside : cell < g.layer}
    (h : ¬ (g.width ≤ cell ∧ taken ≤ cell % g.width)) :
    g.improvement? taken value best cell inside = none := by
  simp [improvement?, h]

/-- Cells without room for the piece do not change. -/
theorem sweep_of_not_room {least cells : ℕ} (hle : least ≤ cells) (hcells : cells ≤ g.layer)
    (h : ∀ cell, least ≤ cell → cell < cells → ¬ (g.width ≤ cell ∧ taken ≤ cell % g.width)) :
    g.sweep taken value cells hcells best marks
      = g.sweep taken value least (hle.trans hcells) best marks := by
  induction cells with
  | zero =>
      obtain rfl := Nat.le_zero.mp hle
      rfl
  | succ cells ih =>
      rcases Nat.lt_or_eq_of_le hle with hlt | rfl
      · have hnone := h cells (Nat.le_of_lt_succ hlt) (Nat.lt_succ_self _)
        refine (sweep_succ_of_none (improvement?_eq_none hnone) marks).trans ?_
        exact ih (Nat.le_of_lt_succ hlt) _
          fun cell hcell hlt => h cell hcell (Nat.lt_succ_of_lt hlt)
      · rfl

variable (value) in
/-- **One cell with room for the piece** is tried without a fault, and then the sweep goes on with
the cells below. -/
theorem improve?_eq_some (hword : n * g.layer ≤ Exact.largestCount)
    (h : g.Shows n t best (g.markedWith others item marks)) (hitem : item < n) {pieces steps : ℕ}
    (hpieces : pieces < g.pieces) (hsteps : steps ≤ g.capacity) (htaken : taken ≤ steps)
    (hcell : g.cell (pieces + 1) steps < g.layer) :
    ∃ t' best' marks', g.layout.improve? item taken value (pieces + 1) t steps = some t' ∧
      g.Shows n t' best' (g.markedWith others item marks') ∧
      g.sweep taken value (g.cell (pieces + 1) steps + 1) hcell best marks
        = g.sweep taken value (g.cell (pieces + 1) steps) hcell.le best' marks' := by
  have hlayer : g.layer ≤ Exact.largestCount :=
    (Nat.le_mul_of_pos_left _ (Nat.zero_lt_of_lt hitem)).trans hword
  have hroom : g.width ≤ g.cell (pieces + 1) steps ∧ taken ≤ g.cell (pieces + 1) steps % g.width :=
    ⟨(width_le_cell_iff hsteps).mpr (Nat.succ_pos _), by rwa [cell_mod_width hsteps]⟩
  have horigin : g.cell (pieces + 1) steps - g.width - taken < g.layer := by omega
  have hmark : item * g.layer + g.cell (pieces + 1) steps < t.marks.length :=
    h.length_marks ▸ mul_layer_add_lt hitem hcell
  have hbest : g.cell (pieces + 1) steps < t.best.length := by
    rw [h.best_eq, Vector.length_toList]
    exact hcell
  unfold Layout.improve?
  rw [origin?_eq_some hlayer hpieces hsteps htaken, cell?_eq_some hlayer hpieces hsteps,
    mark?_eq_some hword hitem hpieces hsteps]
  simp only [Option.bind_eq_bind, Option.bind_some, h.getElem?_best horigin,
    h.getElem?_best hcell, write?_of_lt hbest, write?_of_lt hmark]
  by_cases hbetter : Arithmetic.lt best[g.cell (pieces + 1) steps]
      (best[g.cell (pieces + 1) steps - g.width - taken] + value) = true
  · have himproves : g.improvement? taken value best (g.cell (pieces + 1) steps) hcell
        = some (best[g.cell (pieces + 1) steps - g.width - taken] + value) := by
      simp [improvement?, hroom, hbetter]
    rw [if_pos hbetter]
    exact ⟨_, _, _, rfl, h.set hitem hcell _, sweep_succ_of_some himproves marks⟩
  · have himproves : g.improvement? taken value best (g.cell (pieces + 1) steps) hcell = none := by
      simp [improvement?, hbetter]
    rw [if_neg hbetter]
    exact ⟨_, _, _, rfl, h, sweep_succ_of_none himproves marks⟩

variable (value) in
/-- The cells of one number of pieces. -/
theorem down?_improve?_eq_some (hword : n * g.layer ≤ Exact.largestCount)
    (h : g.Shows n t best (g.markedWith others item marks)) (hitem : item < n) {pieces count : ℕ}
    (hpieces : pieces < g.pieces) (hcount : taken + count ≤ g.capacity + 1)
    (hcells : g.cell (pieces + 1) (taken + count) ≤ g.layer) :
    ∃ t' best' marks',
      down? (g.layout.improve? item taken value (pieces + 1)) taken count t = some t' ∧
      g.Shows n t' best' (g.markedWith others item marks') ∧
      g.sweep taken value (g.cell (pieces + 1) (taken + count)) hcells best marks
        = g.sweep taken value (g.cell (pieces + 1) 0) ((Nat.le_add_right _ _).trans hcells)
            best' marks' := by
  induction count generalizing t best marks with
  | zero =>
      -- the steps below those of the piece leave no room for it
      refine ⟨t, best, marks, rfl, h, sweep_of_not_room (Nat.le_add_right _ _) hcells ?_⟩
      intro cell hle hlt hroom
      obtain ⟨steps, rfl⟩ := Nat.exists_eq_add_of_le hle
      have hsteps : steps < taken := Nat.lt_of_add_lt_add_left hlt
      have hmod : g.cell (pieces + 1) steps % g.width = steps :=
        cell_mod_width (Nat.le_of_lt_succ (hsteps.trans_le hcount))
      exact absurd (hmod ▸ hroom.2) (Nat.not_le.mpr hsteps)
  | succ count ih =>
      have hsteps : taken + count ≤ g.capacity := Nat.le_of_succ_le_succ hcount
      obtain ⟨t₁, best₁, marks₁, hstep, hshows, hsweep⟩ :=
        improve?_eq_some value hword h hitem hpieces hsteps (Nat.le_add_right taken count) hcells
      obtain ⟨t₂, best₂, marks₂, hrest, hshows', hsweep'⟩ :=
        ih hshows (Nat.le_of_succ_le hcount) (Nat.le_of_succ_le hcells)
      exact ⟨t₂, best₂, marks₂, (down?_succ hstep).trans hrest, hshows', hsweep.trans hsweep'⟩

variable (value) in
/-- The cells up to a number of pieces. -/
theorem down?_down?_improve?_eq_some (hword : n * g.layer ≤ Exact.largestCount)
    (h : g.Shows n t best (g.markedWith others item marks)) (hitem : item < n)
    (htaken : taken ≤ g.capacity) {pieces : ℕ} (hpieces : pieces ≤ g.pieces)
    (hcells : g.cell (pieces + 1) 0 ≤ g.layer) :
    ∃ t', down? (fun t pieces => down? (g.layout.improve? item taken value pieces) taken
        (g.capacity + 1 - taken) t) 1 pieces t = some t' ∧
      g.Shows n t' (g.sweep taken value (g.cell (pieces + 1) 0) hcells best marks).1
        (g.markedWith others item
          (g.sweep taken value (g.cell (pieces + 1) 0) hcells best marks).2) := by
  induction pieces generalizing t best marks with
  | zero =>
      -- the cells of no piece at all have room for none
      refine ⟨t, rfl, ?_⟩
      rw [sweep_of_not_room (Nat.zero_le _) hcells]
      · exact h
      · intro place _ hlt hroom
        exact absurd hroom.1 (Nat.not_le.mpr (by simpa [cell] using hlt))
  | succ pieces ih =>
      have hcount : taken + (g.capacity + 1 - taken) = g.capacity + 1 := by omega
      have hrow : g.cell (pieces + 1 + 1) 0
          = g.cell (pieces + 1) (taken + (g.capacity + 1 - taken)) := by
        rw [hcount, cell, cell, Nat.succ_mul (pieces + 1)]
        rfl
      have hcells' := hrow ▸ hcells
      obtain ⟨t₁, best₁, marks₁, hstep, hshows, hsweep⟩ :=
        down?_improve?_eq_some value hword h hitem hpieces hcount.le hcells'
      obtain ⟨t₂, hrest, hshows'⟩ := ih hshows (Nat.le_of_succ_le hpieces) _
      refine ⟨t₂, (down?_succ ?_).trans hrest, ?_⟩
      · rw [Nat.add_comm 1 pieces]
        exact hstep
      · simp only [hrow, hsweep]
        exact hshows'

/-- **One more piece** is added as the grid adds it. -/
theorem addPiece?_eq_some (hword : n * g.layer ≤ Exact.largestCount)
    (h : g.Shows n t best (g.markedWith others item (Vector.replicate g.layer false)))
    (hitem : item < n) (hconsiders : g.considers taken value = true) :
    ∃ t', g.layout.addPiece? item taken value t = some t' ∧
      g.Shows n t' (g.add taken value best).1
        (g.markedWith others item (g.add taken value best).2) := by
  obtain ⟨hworth, htaken⟩ : Arithmetic.le value Arithmetic.zero = false ∧ taken ≤ g.capacity := by
    simpa [considers] using hconsiders
  have hlayer : g.cell (g.pieces + 1) 0 = g.layer := rfl
  obtain ⟨t', hloop, hshows⟩ :=
    down?_down?_improve?_eq_some value hword h hitem htaken le_rfl hlayer.le
  refine ⟨t', ?_, hshows⟩
  have hroom : ¬ g.layout.capacity < taken := Nat.not_lt.mpr htaken
  rw [Layout.addPiece?, if_neg (by simp [hworth, hroom])]
  exact hloop

/-! ### All pieces -/

variable {filled : List (ℕ × Option (Vector Bool g.layer))}

theorem markIn_cons_of_ne (entry : ℕ × Option (Vector Bool g.layer)) (h : item ≠ filled.length)
    (cell : ℕ) : g.markIn (entry :: filled) item cell = g.markIn filled item cell := by
  have hget : (entry :: filled).reverse[item]? = filled.reverse[item]? := by
    rw [List.reverse_cons, List.getElem?_append]
    split
    · rfl
    · next hge =>
        rw [List.length_reverse] at hge ⊢
        rw [List.getElem?_eq_none (by simp; omega), List.getElem?_eq_none (by simp; omega)]
  rw [markIn, markIn, hget]

theorem markIn_cons_length (entry : ℕ × Option (Vector Bool g.layer)) (cell : ℕ) :
    g.markIn (entry :: filled) filled.length cell
      = entry.2.any fun marks => marks[cell]?.getD false := by
  simp [markIn]

/-- A piece that has not been added has marked nothing. -/
theorem markIn_of_length_le (h : filled.length ≤ item) (cell : ℕ) :
    g.markIn filled item cell = false := by
  rw [markIn, List.getElem?_eq_none (by simpa using h)]
  rfl

theorem markedWith_replicate_false :
    g.markedWith (g.markIn filled) filled.length (Vector.replicate g.layer false)
      = g.markIn filled := by
  funext piece cell
  by_cases hpiece : piece = filled.length
  · subst hpiece
    rw [markedWith, if_pos rfl, markIn_of_length_le le_rfl, Vector.getElem?_replicate]
    split <;> rfl
  · rw [markedWith, if_neg hpiece]

variable (taken) in
theorem markIn_cons_some (marks : Vector Bool g.layer) :
    g.markIn ((taken, some marks) :: filled)
      = g.markedWith (g.markIn filled) filled.length marks := by
  funext piece cell
  by_cases hpiece : piece = filled.length
  · subst hpiece
    rw [markIn_cons_length, markedWith, if_pos rfl]
    rfl
  · rw [markIn_cons_of_ne _ hpiece, markedWith, if_neg hpiece]

variable (taken) in
theorem markIn_cons_none :
    g.markIn ((taken, none) :: filled) = g.markIn filled := by
  funext piece cell
  by_cases hpiece : piece = filled.length
  · subst hpiece
    rw [markIn_cons_length, markIn_of_length_le le_rfl]
    rfl
  · rw [markIn_cons_of_ne _ hpiece]

/-- **All pieces** are added as the grid adds them. -/
theorem fill?_eq_some (hword : n * g.layer ≤ Exact.largestCount) (pieces : List (Piece α))
    (hpieces : filled.length + pieces.length ≤ n) (h : g.Shows n t best (g.markIn filled)) :
    ∃ t' best', g.layout.fill? filled.length t pieces = some t' ∧
      g.Shows n t' best' (g.markIn (g.fill best filled pieces)) := by
  induction pieces generalizing t best filled with
  | nil => exact ⟨t, best, rfl, h⟩
  | cons piece rest ih =>
      rw [List.length_cons] at hpieces
      rw [Grid.fill, Layout.fill?]
      by_cases hconsiders : g.considers (stepsOf piece.weight) piece.value = true
      · rw [if_pos hconsiders]
        rw [← markedWith_replicate_false] at h
        obtain ⟨t₁, hadd, hshows⟩ := addPiece?_eq_some hword h (by omega) hconsiders
        rw [← markIn_cons_some (stepsOf piece.weight)] at hshows
        rw [hadd]
        exact ih (by rw [List.length_cons]; omega) hshows
      · have hskip : g.layout.addPiece? filled.length (stepsOf piece.weight) piece.value t
            = some t := by
          have hcapacity : g.layout.capacity = g.capacity := rfl
          rw [Layout.addPiece?, if_pos]
          simpa [considers, hcapacity, or_iff_not_imp_left] using hconsiders
        rw [if_neg hconsiders, hskip]
        rw [← markIn_cons_none (stepsOf piece.weight)] at h
        exact ih (by rw [List.length_cons]; omega) h

/-! ### Following the marks back -/

/-- A piece has marked only cells that have room for it. -/
def IsRoomy (g : Grid) (filled : List (ℕ × Option (Vector Bool g.layer))) : Prop :=
  ∀ entry ∈ filled, ∀ pieces ≤ g.pieces, ∀ steps ≤ g.capacity,
    (entry.2.any fun marks => marks[g.cell pieces steps]?.getD false) = true → entry.1 ≤ steps

theorem le_of_marked_add {pieces steps : ℕ} (hpieces : pieces ≤ g.pieces)
    (hsteps : steps ≤ g.capacity)
    (h : (g.add taken value best).2[g.cell pieces steps]?.getD false = true) : taken ≤ steps := by
  have hcell := cell_lt_layer hpieces hsteps
  rw [Vector.getElem?_eq_getElem hcell, Option.getD_some, add, (sweep_spec _ _ _ _ _ hcell).2,
    if_pos hcell, Vector.getElem_replicate, Bool.or_false] at h
  by_contra hlt
  rw [improvement?_eq_none] at h
  · cases h
  · rw [cell_mod_width hsteps]
    exact fun hroom => hlt hroom.2

theorem fill_isRoomy (pieces : List (Piece α)) (best : Vector α g.layer) (h : g.IsRoomy filled) :
    g.IsRoomy (g.fill best filled pieces) := by
  induction pieces generalizing best filled with
  | nil => exact h
  | cons piece rest ih =>
      rw [Grid.fill]
      dsimp only
      split
      · refine ih _ (List.forall_mem_cons.mpr ⟨?_, h⟩)
        intro pieces hpieces steps hsteps hmarked
        exact le_of_marked_add hpieces hsteps hmarked
      · refine ih _ (List.forall_mem_cons.mpr ⟨?_, h⟩)
        intro pieces _ steps _ hmarked
        cases hmarked

variable (filled) in
/-- The table knows the steps of every piece. -/
theorem map_fst_fill (pieces : List (Piece α)) (best : Vector α g.layer) :
    ((g.fill best filled pieces).map Prod.fst).reverse
      = (filled.map Prod.fst).reverse ++ pieces.map fun piece => stepsOf piece.weight := by
  induction pieces generalizing best filled with
  | nil => simp [Grid.fill]
  | cons piece rest ih =>
      rw [Grid.fill]
      dsimp only
      split <;> simp [ih]

/-- The mark of one piece. Whether it is kept was left open, which is the same as not keeping it. -/
theorem recover?_step {sizes : List ℕ} {flat : List Bool} {mark : Bool} {pieces steps : ℕ}
    (hword : n * g.layer ≤ Exact.largestCount) (hitem : item < n) (hpieces : pieces ≤ g.pieces)
    (hsteps : steps ≤ g.capacity) (hsize : sizes[item]? = some taken)
    (hmark : flat[item * g.layer + g.cell pieces steps]? = some mark)
    (hroom : mark = true → taken ≤ steps) (kept : List Bool) :
    g.layout.recover? sizes flat ⟨List.replicate (item + 1) false ++ kept, pieces, steps⟩ item
      = some (if (0 < pieces && mark) = true
          then ⟨List.replicate item false ++ true :: kept, pieces - 1, steps - taken⟩
          else ⟨List.replicate item false ++ false :: kept, pieces, steps⟩) := by
  have hopen : List.replicate (item + 1) false ++ kept
      = List.replicate item false ++ false :: kept := by
    rw [List.replicate_succ', List.append_assoc, List.singleton_append]
  have hwrite : write? (List.replicate item false ++ false :: kept) item true
      = some (List.replicate item false ++ true :: kept) := by
    rw [write?_of_lt (by simp)]
    simp
  unfold Layout.recover?
  dsimp only
  rw [mark?_eq_some hword hitem hpieces hsteps, hopen]
  simp only [Option.bind_eq_bind, Option.bind_some, hmark, hsize, hwrite]
  by_cases hpositive : 0 < pieces
  · cases mark with
    | true => simp [hpositive, sub?_of_le hpositive, sub?_of_le (hroom rfl)]
    | false => simp
  · simp [hpositive]

/-- **The marks are followed back** from any cell as the grid follows them. -/
theorem down?_recover?_eq_some (sizes : List ℕ) (flat : List Bool)
    (hword : n * g.layer ≤ Exact.largestCount) (hlength : filled.length ≤ n)
    (hroomy : g.IsRoomy filled) (hsizes : (filled.map Prod.fst).reverse <+: sizes)
    (hmarks : ∀ item < filled.length, ∀ cell < g.layer,
      flat[item * g.layer + cell]? = some (g.markIn filled item cell))
    (kept : List Bool) {pieces steps : ℕ} (hpieces : pieces ≤ g.pieces)
    (hsteps : steps ≤ g.capacity) :
    ∃ trail, down? (g.layout.recover? sizes flat) 0 filled.length
        ⟨List.replicate filled.length false ++ kept, pieces, steps⟩ = some trail ∧
      trail.kept = g.recover pieces steps kept filled := by
  induction filled generalizing kept pieces steps with
  | nil => exact ⟨_, rfl, rfl⟩
  | cons entry rest ih =>
      obtain ⟨taken, marks⟩ := entry
      obtain ⟨hroom, hroomy⟩ := List.forall_mem_cons.mp hroomy
      rw [List.map_cons, List.reverse_cons] at hsizes
      have hrest := @ih (Nat.le_of_succ_le hlength) hroomy
        ((List.prefix_append _ _).trans hsizes) fun item hitem cell hcell => by
          rw [hmarks item (Nat.lt_succ_of_lt hitem) cell hcell,
            markIn_cons_of_ne _ (Nat.ne_of_lt hitem)]
      have hsize : sizes[rest.length]? = some taken := by
        obtain ⟨others, rfl⟩ := hsizes
        simp
      have hmark := hmarks rest.length (Nat.lt_succ_self _) _ (cell_lt_layer hpieces hsteps)
      rw [markIn_cons_length] at hmark
      have hstep := recover?_step hword hlength hpieces hsteps hsize hmark
        (hroom pieces hpieces steps hsteps) kept
      have hitem : 0 + rest.length = rest.length := Nat.zero_add _
      rw [List.length_cons, Grid.recover]
      split at hstep
      · next hkeeps =>
          obtain ⟨trail, htrail, hkept⟩ := hrest (true :: kept) ((Nat.sub_le _ _).trans hpieces)
            ((Nat.sub_le _ _).trans hsteps)
          rw [if_pos hkeeps]
          exact ⟨trail, (down?_succ ((congrArg _ hitem).trans hstep)).trans htrail, hkept⟩
      · next hleaves =>
          obtain ⟨trail, htrail, hkept⟩ := hrest (false :: kept) hpieces hsteps
          rw [if_neg hleaves]
          exact ⟨trail, (down?_succ ((congrArg _ hitem).trans hstep)).trans htrail, hkept⟩

end Sweep

end Grid

/-! ### The whole choice -/

/-- Cutting a factor off at the largest count does not bring a product down to a limit. -/
theorem lt_mul_saturated_iff {limit m n : ℕ} (hlimit : limit < Exact.largestCount) :
    limit < m * saturated n ↔ limit < m * n := by
  rcases le_or_gt n Exact.largestCount with hle | hgt
  · rw [saturated, min_eq_left hle]
  · rw [saturated, min_eq_right hgt.le]
    rcases Nat.eq_zero_or_pos m with rfl | hm
    · simp
    · have hlargest : Exact.largestCount ≤ m * Exact.largestCount := Nat.le_mul_of_pos_left _ hm
      have hproduct : n ≤ m * n := Nat.le_mul_of_pos_left _ hm
      exact iff_of_true (by omega) (by omega)

namespace Layout

variable {α : Type} [Arithmetic α]

theorem table?_of_le {β : Type} {cells : ℕ} (h : cells ≤ tableLimit) (item : β) :
    table? cells item = some (List.replicate cells item) := if_pos h

theorem isTractable_iff {g : Grid} {n : ℕ} :
    g.isTractable n = true ↔ g.layer ≤ tableLimit ∧ n * g.layer ≤ tableLimit := by
  simp only [Grid.isTractable, Bool.and_eq_true, decide_eq_true_eq]
  exact Iff.rfl

/-- On tables of a size that is allowed, no step fails, and the choice is that of the grid. -/
theorem choose?_eq_some {g : Grid} {pieces : List (Piece α)}
    (h : g.isTractable pieces.length = true) :
    g.layout.choose? (pieces.length * g.layer) pieces = some (g.choose pieces) := by
  obtain ⟨hlayer, hcells⟩ := isTractable_iff.mp h
  have hlimit : tableLimit ≤ Exact.largestCount := by decide
  have hword := hcells.trans hlimit
  obtain ⟨t, best, hfill, hshows⟩ :=
    Grid.fill?_eq_some hword pieces (by simp) (Grid.shows_replicate pieces.length)
  have hsizes := Grid.map_fst_fill [] pieces (Vector.replicate g.layer (Arithmetic.zero : α))
  have hlength := congrArg List.length hsizes
  have hroomy := Grid.fill_isRoomy pieces (Vector.replicate g.layer (Arithmetic.zero : α))
    (List.forall_mem_nil _)
  unfold Grid.choose
  generalize g.fill (Vector.replicate g.layer Arithmetic.zero) [] pieces = filled at *
  simp only [List.length_reverse, List.length_map, List.map_nil, List.reverse_nil,
    List.nil_append] at hlength hsizes
  obtain ⟨trail, hrecover, hkept⟩ := Grid.down?_recover?_eq_some
    (pieces.map fun piece => stepsOf piece.weight) t.marks hword hlength.le hroomy
    (hsizes ▸ List.prefix_rfl)
    (fun item hitem => hshows.getElem?_marks item (hlength ▸ hitem)) [] (le_refl g.pieces)
    (le_refl g.capacity)
  rw [hlength, List.append_nil] at hrecover
  have hbest : table? g.layout.layer (Arithmetic.zero : α)
      = some (List.replicate g.layer Arithmetic.zero) := table?_of_le hlayer _
  have hfill : g.layout.fill? 0 ⟨List.replicate g.layer Arithmetic.zero,
      List.replicate (pieces.length * g.layer) false⟩ pieces = some t := hfill
  have hrecover : down? (g.layout.recover? (pieces.map fun piece => stepsOf piece.weight) t.marks) 0
      pieces.length ⟨List.replicate pieces.length false, g.layout.pieces, g.layout.capacity⟩
      = some trail := hrecover
  rw [choose?, hbest, table?_of_le hcells]
  simp only [Option.bind_eq_bind, Option.bind_some, hfill, hrecover, hkept]

/-- The tables are refused for their size as counted in words, exactly if they are too large. -/
theorem lt_saturated_cells_iff (g : Grid) (n : ℕ) :
    (tableLimit < saturated (n * saturated ((g.pieces + 1) * saturated (g.capacity + 1))) ∨
      tableLimit < saturated ((g.pieces + 1) * saturated (g.capacity + 1))) ↔
      ¬ g.isTractable n = true := by
  have hlimit : tableLimit < Exact.largestCount := by decide
  have hlayer : (g.pieces + 1) * (g.capacity + 1) = g.layer := rfl
  rw [lt_saturated_iff hlimit, lt_saturated_iff hlimit, lt_mul_saturated_iff hlimit,
    lt_mul_saturated_iff hlimit, ← Nat.mul_assoc, lt_mul_saturated_iff hlimit, Nat.mul_assoc,
    hlayer]
  rw [isTractable_iff, not_and_or, not_le, not_le]
  exact or_comm

/-- The sizes of tables that are allowed are not cut off. The marks are counted only if there is a
piece; the layer of one piece is looked at by itself. -/
theorem saturated_eq_of_isTractable {g : Grid} {n : ℕ} (h : g.isTractable n = true) :
    saturated (g.capacity + 1) = g.width ∧ saturated ((g.pieces + 1) * g.width) = g.layer ∧
      saturated (n * g.layer) = n * g.layer := by
  obtain ⟨hlayer, hcells⟩ := isTractable_iff.mp h
  have hlimit : tableLimit ≤ Exact.largestCount := by decide
  have hwidth : g.width ≤ g.layer := Nat.le_mul_of_pos_left _ (Nat.succ_pos _)
  exact ⟨min_eq_left (by exact hwidth.trans (hlayer.trans hlimit)),
    min_eq_left (hlayer.trans hlimit), min_eq_left (hcells.trans hlimit)⟩

/-- **No step of the exact choice fails**: no place is outside of its table, no difference is
negative, no sum and no product exceeds a word, and no table has more than twenty million cells.
What comes out is the choice of the grid, or its refusal, for all pieces and budgets and in every
arithmetic. -/
theorem select?_eq_some (pieces : List (Piece α)) (maxWeight : α) (maxPieces : UInt32) :
    select? pieces maxWeight maxPieces = some (knapsack? pieces maxWeight maxPieces.toNat) := by
  set g := Grid.ofBudgets pieces maxWeight maxPieces.toNat with hg
  have hpieces : min maxPieces.toNat pieces.length = g.pieces := rfl
  have hcapacity : stepsWithin maxWeight = g.capacity := rfl
  have hmost : add? g.pieces 1 = some (g.pieces + 1) := by
    have hword := maxPieces.toNat_lt
    refine add?_of_le ?_
    rw [← hpieces]
    unfold Exact.largestCount
    omega
  have hguard := lt_saturated_cells_iff g pieces.length
  unfold select? knapsack?
  simp only [Option.bind_eq_bind, hpieces, hcapacity, hmost, Option.bind_some, Bool.or_eq_true,
    decide_eq_true_eq, hguard, ← hg]
  by_cases htractable : g.isTractable pieces.length = true
  · obtain ⟨hwidth, hlayer, hcells⟩ := saturated_eq_of_isTractable htractable
    rw [if_neg (not_not.mpr htractable), if_pos htractable, hwidth, hlayer, hcells]
    have hchoice : choose? ⟨g.pieces, g.capacity, g.width, g.layer⟩ (pieces.length * g.layer) pieces
        = some (g.choose pieces) := choose?_eq_some htractable
    rw [hchoice, Option.bind_some]
  · rw [if_pos htractable, if_neg htractable]

end Layout

end Baggage.Selection
