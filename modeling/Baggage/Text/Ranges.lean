/-!
# Baggage.Text.Ranges

**Sets of characters** given by ranges of code points, as the tables of character properties list
them. `inRanges_of_mem` says that a range in the list suffices, and `ascending` is the order in
which the tables stand: it leaves no range out of place and none twice.
-/

namespace Baggage.Text

/-- Whether a character lies in one of some ranges, each given by its first and its last code
point. -/
def inRanges (ranges : List (Nat × Nat)) (c : Char) : Bool :=
  ranges.any fun (first, last) => first ≤ c.toNat && c.toNat ≤ last

/-- Whether every range ends where it begins or later, and before the next one begins. -/
def ascending : List (Nat × Nat) → Bool
  | [] => true
  | [(first, last)] => first ≤ last
  | (first, last) :: next :: rest => first ≤ last && last < next.1 && ascending (next :: rest)

theorem inRanges_of_mem {ranges : List (Nat × Nat)} {first last : Nat} {c : Char}
    (mem : (first, last) ∈ ranges) (least : first ≤ c.toNat) (greatest : c.toNat ≤ last) :
    inRanges ranges c = true :=
  List.any_eq_true.mpr ⟨_, mem, by simp [least, greatest]⟩

end Baggage.Text
