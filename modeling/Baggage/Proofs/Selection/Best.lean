import Baggage.Proofs.Arithmetic
import Baggage.Selection.Selector

/-!
# Baggage.Proofs.Selection.Best

**Best choices of pieces**, said of the pieces themselves. A choice is a list of Booleans, one for
each piece. It `Fits` if it keeps few enough pieces and their sizes, whatever they are measured in,
do not add up to more than a limit; it `IsBest` if no other choice that fits is worth more.

One more piece behind the others is either left or taken. `IsBest.append_false` and
`IsBest.append_true` are these two cases for sizes in whole steps, where taking the piece leaves a
smaller limit for the others.
-/

namespace Baggage.Selection

open Selector (keptPieces)

/-! ### Kept pieces -/

section Kept

variable {α : Type}

@[simp] theorem keptPieces_nil_left (kept : List Bool) :
    keptPieces ([] : List (Piece α)) kept = [] := by simp [keptPieces]

@[simp] theorem keptPieces_nil_right (pieces : List (Piece α)) : keptPieces pieces [] = [] := rfl

@[simp] theorem keptPieces_cons_false (piece : Piece α) (pieces : List (Piece α))
    (kept : List Bool) :
    keptPieces (piece :: pieces) (false :: kept) = keptPieces pieces kept := rfl

@[simp] theorem keptPieces_cons_true (piece : Piece α) (pieces : List (Piece α))
    (kept : List Bool) :
    keptPieces (piece :: pieces) (true :: kept) = piece :: keptPieces pieces kept := rfl

theorem keptPieces_append {pieces : List (Piece α)} {kept : List Bool}
    (h : kept.length = pieces.length) (piece : Piece α) (keep : Bool) :
    keptPieces (pieces ++ [piece]) (kept ++ [keep])
      = keptPieces pieces kept ++ if keep then [piece] else [] := by
  unfold keptPieces
  rw [List.zip_append h, List.filter_append, List.map_append]
  cases keep <;> rfl

theorem keptPieces_subset {pieces : List (Piece α)} {kept : List Bool} {piece : Piece α}
    (h : piece ∈ keptPieces pieces kept) : piece ∈ pieces := by
  obtain ⟨⟨keep, piece'⟩, hmem, rfl⟩ := List.mem_map.mp h
  exact (List.of_mem_zip (List.mem_of_mem_filter hmem)).2

theorem length_keptPieces_le (pieces : List (Piece α)) (kept : List Bool) :
    (keptPieces pieces kept).length ≤ pieces.length := by
  unfold keptPieces
  rw [List.length_map]
  exact (List.length_filter_le _ _).trans (by simp)

/-- A decision without a piece keeps nothing. -/
theorem length_keptPieces_le_countP (pieces : List (Piece α)) (kept : List Bool) :
    (keptPieces pieces kept).length ≤ kept.countP id := by
  induction kept generalizing pieces with
  | nil => simp
  | cons keep kept ih =>
      cases pieces with
      | nil => simp
      | cons piece pieces =>
          have hrest := ih pieces
          cases keep with
          | false => simpa using hrest
          | true => simpa using hrest

end Kept

/-- The sum of a measure of the kept pieces. -/
def keptSum {M : Type} [AddMonoid M] (measure : Piece ℚ → M) (pieces : List (Piece ℚ))
    (kept : List Bool) : M := ((keptPieces pieces kept).map measure).sum

section KeptSum

variable {M : Type} [AddMonoid M] {measure : Piece ℚ → M} {pieces : List (Piece ℚ)}
  {kept : List Bool}

@[simp] theorem keptSum_nil_left (kept : List Bool) : keptSum measure [] kept = 0 := by
  simp [keptSum]

@[simp] theorem keptSum_nil_right (pieces : List (Piece ℚ)) : keptSum measure pieces [] = 0 := rfl

@[simp] theorem keptSum_cons_false (piece : Piece ℚ) (pieces : List (Piece ℚ)) (kept : List Bool) :
    keptSum measure (piece :: pieces) (false :: kept) = keptSum measure pieces kept := rfl

@[simp] theorem keptSum_cons_true (piece : Piece ℚ) (pieces : List (Piece ℚ)) (kept : List Bool) :
    keptSum measure (piece :: pieces) (true :: kept)
      = measure piece + keptSum measure pieces kept := by
  simp [keptSum]

theorem keptSum_append_false (h : kept.length = pieces.length) (piece : Piece ℚ) :
    keptSum measure (pieces ++ [piece]) (kept ++ [false]) = keptSum measure pieces kept := by
  simp [keptSum, keptPieces_append h]

theorem keptSum_append_true (h : kept.length = pieces.length) (piece : Piece ℚ) :
    keptSum measure (pieces ++ [piece]) (kept ++ [true])
      = keptSum measure pieces kept + measure piece := by
  simp [keptSum, keptPieces_append h]

/-- Measures that agree on all pieces have the same sums. -/
theorem keptSum_congr {other : Piece ℚ → M} (h : ∀ piece ∈ pieces, measure piece = other piece)
    (kept : List Bool) : keptSum measure pieces kept = keptSum other pieces kept := by
  unfold keptSum
  rw [List.map_congr_left fun piece hpiece => h piece (keptPieces_subset hpiece)]

end KeptSum

/-! ### Choices -/

section Choices

variable {M : Type} [AddMonoid M] [LE M]

/-- A choice that keeps to both budgets. -/
structure Fits (size : Piece ℚ → M) (pieces : List (Piece ℚ)) (maxPieces : ℕ) (limit : M)
    (kept : List Bool) : Prop where
  /-- There is one decision for each piece. -/
  length_eq : kept.length = pieces.length
  /-- Not too many pieces are kept. -/
  count_le : (keptPieces pieces kept).length ≤ maxPieces
  /-- Their sizes do not exceed the limit. -/
  size_le : keptSum size pieces kept ≤ limit

/-- A choice that fits, such that none that fits is worth more. -/
structure IsBest (size : Piece ℚ → M) (pieces : List (Piece ℚ)) (maxPieces : ℕ) (limit : M)
    (kept : List Bool) : Prop where
  /-- The choice keeps to both budgets. -/
  fits : Fits size pieces maxPieces limit kept
  /-- No choice that does is worth more. -/
  value_le : ∀ other, Fits size pieces maxPieces limit other →
    keptSum Piece.value pieces other ≤ keptSum Piece.value pieces kept

variable {size : Piece ℚ → M} {pieces : List (Piece ℚ)} {maxPieces : ℕ} {limit : M}
  {kept : List Bool}

/-- It takes no more pieces than there are. -/
theorem fits_min_iff :
    Fits size pieces (min maxPieces pieces.length) limit kept
      ↔ Fits size pieces maxPieces limit kept := by
  constructor
  · rintro ⟨hlength, hcount, hsize⟩
    exact ⟨hlength, hcount.trans (Nat.min_le_left _ _), hsize⟩
  · rintro ⟨hlength, hcount, hsize⟩
    exact ⟨hlength, Nat.le_min.mpr ⟨hcount, length_keptPieces_le _ _⟩, hsize⟩

theorem IsBest.of_fits_iff {N : Type} [AddMonoid N] [LE N] {size' : Piece ℚ → N} {maxPieces' : ℕ}
    {limit' : N} (h : IsBest size pieces maxPieces limit kept)
    (hiff : ∀ other, Fits size' pieces maxPieces' limit' other
      ↔ Fits size pieces maxPieces limit other) :
    IsBest size' pieces maxPieces' limit' kept :=
  ⟨(hiff kept).mpr h.fits, fun other hother => h.value_le other ((hiff other).mp hother)⟩

theorem fits_append_false_iff {piece : Piece ℚ} :
    Fits size (pieces ++ [piece]) maxPieces limit (kept ++ [false])
      ↔ Fits size pieces maxPieces limit kept := by
  constructor
  · rintro ⟨hlength, hcount, hsize⟩
    have hlen : kept.length = pieces.length := by simpa using hlength
    rw [keptPieces_append hlen] at hcount
    rw [keptSum_append_false hlen] at hsize
    exact ⟨hlen, by simpa using hcount, hsize⟩
  · rintro ⟨hlen, hcount, hsize⟩
    refine ⟨by simp [hlen], ?_, ?_⟩
    · simpa [keptPieces_append hlen] using hcount
    · rwa [keptSum_append_false hlen]

end Choices

/-! ### One more piece -/

section OneMore

variable {size : Piece ℚ → ℕ} {pieces : List (Piece ℚ)} {piece : Piece ℚ} {maxPieces limit : ℕ}

theorem fits_append_true_iff {kept : List Bool} :
    Fits size (pieces ++ [piece]) maxPieces limit (kept ++ [true])
      ↔ 0 < maxPieces ∧ size piece ≤ limit ∧
        Fits size pieces (maxPieces - 1) (limit - size piece) kept := by
  constructor
  · rintro ⟨hlength, hcount, hsize⟩
    have hlen : kept.length = pieces.length := by simpa using hlength
    have hcount' : (keptPieces pieces kept).length + 1 ≤ maxPieces := by
      simpa [keptPieces_append hlen] using hcount
    rw [keptSum_append_true hlen] at hsize
    exact ⟨by omega, by omega, hlen, by omega, by omega⟩
  · rintro ⟨hpos, hle, hlen, hcount, hsize⟩
    refine ⟨by simp [hlen], ?_, ?_⟩
    · have hcount' : (keptPieces pieces kept).length + 1 ≤ maxPieces := by omega
      simpa [keptPieces_append hlen] using hcount'
    · rw [keptSum_append_true hlen]
      omega

/-- A choice for one more piece is a choice for the others, and whether the piece is taken. -/
theorem Fits.append_cases {kept : List Bool}
    (h : Fits size (pieces ++ [piece]) maxPieces limit kept) :
    (∃ others, kept = others ++ [false] ∧ Fits size pieces maxPieces limit others) ∨
      ∃ others, kept = others ++ [true] ∧ 0 < maxPieces ∧ size piece ≤ limit ∧
        Fits size pieces (maxPieces - 1) (limit - size piece) others := by
  rcases List.eq_nil_or_concat' kept with rfl | ⟨others, keep, rfl⟩
  · simpa using h.length_eq
  · cases keep with
    | false => exact Or.inl ⟨others, rfl, fits_append_false_iff.mp h⟩
    | true => exact Or.inr ⟨others, rfl, fits_append_true_iff.mp h⟩

/-- The piece is left: taking it would not be worth more. -/
theorem IsBest.append_false {left : List Bool} (hleft : IsBest size pieces maxPieces limit left)
    (hle : 0 < maxPieces → size piece ≤ limit → ∀ taken,
      Fits size pieces (maxPieces - 1) (limit - size piece) taken →
        keptSum Piece.value pieces taken + piece.value ≤ keptSum Piece.value pieces left) :
    IsBest size (pieces ++ [piece]) maxPieces limit (left ++ [false]) := by
  refine ⟨fits_append_false_iff.mpr hleft.fits, fun other hother => ?_⟩
  rw [keptSum_append_false hleft.fits.length_eq]
  rcases hother.append_cases with ⟨others, rfl, hfits⟩ | ⟨others, rfl, hpos, hsize, hfits⟩
  · rw [keptSum_append_false hfits.length_eq]
    exact hleft.value_le others hfits
  · rw [keptSum_append_true hfits.length_eq]
    exact hle hpos hsize others hfits

/-- The piece is taken: a best choice for what is left of the budgets then wins over a best choice
for all of them. -/
theorem IsBest.append_true {left taken : List Bool} (hpos : 0 < maxPieces)
    (hsize : size piece ≤ limit)
    (htaken : IsBest size pieces (maxPieces - 1) (limit - size piece) taken)
    (hleft : IsBest size pieces maxPieces limit left)
    (hlt : keptSum Piece.value pieces left < keptSum Piece.value pieces taken + piece.value) :
    IsBest size (pieces ++ [piece]) maxPieces limit (taken ++ [true]) := by
  refine ⟨fits_append_true_iff.mpr ⟨hpos, hsize, htaken.fits⟩, fun other hother => ?_⟩
  rw [keptSum_append_true htaken.fits.length_eq]
  -- a competitor that leaves the piece is no better than `left`, which is worth less
  rcases hother.append_cases with ⟨others, rfl, hfits⟩ | ⟨others, rfl, -, -, hfits⟩
  · rw [keptSum_append_false hfits.length_eq]
    exact (hleft.value_le others hfits).trans hlt.le
  · rw [keptSum_append_true hfits.length_eq]
    exact add_le_add_left (htaken.value_le others hfits) _

end OneMore

end Baggage.Selection
