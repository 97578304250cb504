import Baggage.Fare.Rupees
import Baggage.Proofs.Decimal.Numeral
import Baggage.Proofs.Decimal.Rounding

/-!
# Baggage.Proofs.Fare.Rupees

**An amount in rupees can be read back.** The digits are in groups of the Indian lengths, however
many there are, and none is lost (`digitGroups_spec`); only commas stand between the groups, so that
leaving them out gives the digits again (`filter_ne_comma`). What the digits denote is the amount
after one rounding, for only zeros at the end of the decimals are dropped on the way
(`exists_eq_trimZeros_append`).

Whole rupees are rounded twice, first to a whole number and then to no decimals; the second rounding
changes nothing (`ofDigitChars_fixedDigits_intCast`). That whole amounts are written differently if
they differ follows from what is read from them.
-/

namespace Baggage.Fare

open Decimal (RoundsTo PrefersEven PrefersOuter fixedDigits)
open Numeral (pointed)

/-! ### Groups -/

/-- **Indian grouping**: the last group has three digits, the first one or two, and every one
between them two; a group that stands alone has up to three. -/
inductive IsIndian : List (List Char) → Prop where
  | single {group : List Char} (hleast : 1 ≤ group.length) (hmost : group.length ≤ 3) :
      IsIndian [group]
  | several {first last : List Char} {middle : List (List Char)}
      (hfirst : first.length = 1 ∨ first.length = 2) (hmiddle : ∀ group ∈ middle, group.length = 2)
      (hlast : last.length = 3) : IsIndian (first :: middle ++ [last])

open pairGroups (pairs)

theorem flatten_pairs : ∀ digits : List Char, (pairs digits).flatten = digits
  | [] => rfl
  | [_] => rfl
  | a :: b :: rest => by
      rw [pairs, List.flatten_cons, flatten_pairs rest]
      rfl

theorem length_of_mem_pairs : ∀ {digits : List Char}, digits.length % 2 = 0 →
    ∀ group ∈ pairs digits, group.length = 2
  | [], _, group, hgroup => by cases hgroup
  | [_], hodd, _, _ => by cases hodd
  | a :: b :: rest, heven, group, hgroup => by
      rw [pairs, List.mem_cons] at hgroup
      rcases hgroup with rfl | hgroup
      · rfl
      · refine length_of_mem_pairs ?_ group hgroup
        simpa only [List.length_cons, Nat.add_assoc, Nat.add_mod_right] using heven

/-- Digits of which there are some have a first group, and all groups after it are pairs. -/
theorem pairGroups_cases {digits : List Char} (hne : digits ≠ []) : ∃ first middle,
    pairGroups digits = first :: middle ∧ (first.length = 1 ∨ first.length = 2) ∧
      (∀ group ∈ middle, group.length = 2) ∧ (first :: middle).flatten = digits := by
  unfold pairGroups
  dsimp only
  rcases Nat.mod_two_eq_zero_or_one digits.length with heven | hodd
  · -- the first group is a pair as well
    have hpairs := length_of_mem_pairs heven
    have hflatten := flatten_pairs digits
    rw [heven, if_neg (by decide), List.nil_append, List.drop_zero]
    cases hgroups : pairs digits with
    | nil =>
        rw [hgroups] at hflatten
        exact absurd hflatten.symm hne
    | cons first middle =>
        rw [hgroups] at hpairs hflatten
        exact ⟨first, middle, rfl, .inr (hpairs first List.mem_cons_self),
          fun group hgroup => hpairs group (List.mem_cons_of_mem first hgroup), hflatten⟩
  · have hlength : (digits.take 1).length = 1 := by
      rw [List.length_take]
      omega
    have heven : (digits.drop 1).length % 2 = 0 := by
      rw [List.length_drop]
      omega
    rw [hodd, if_pos rfl]
    refine ⟨digits.take 1, pairs (digits.drop 1), rfl, .inl hlength, length_of_mem_pairs heven, ?_⟩
    rw [List.flatten_cons, flatten_pairs, List.take_append_drop]

/-- **Digits are grouped the Indian way, however many there are**, and none is lost or moved. -/
theorem digitGroups_spec {digits : List Char} (hne : digits ≠ []) :
    IsIndian (digitGroups digits) ∧ (digitGroups digits).flatten = digits := by
  unfold digitGroups
  split
  · next hshort =>
      exact ⟨.single (List.length_pos_of_ne_nil hne) hshort, List.append_nil digits⟩
  · next hlong =>
      have hhead : digits.take (digits.length - 3) ≠ [] := by
        refine List.ne_nil_of_length_pos ?_
        rw [List.length_take]
        omega
      have hlast : (digits.drop (digits.length - 3)).length = 3 := by
        rw [List.length_drop]
        omega
      obtain ⟨first, middle, hgroups, hfirst, hmiddle, hflatten⟩ := pairGroups_cases hhead
      dsimp only
      rw [hgroups]
      refine ⟨.several hfirst hmiddle hlast, ?_⟩
      rw [List.flatten_append, hflatten, List.flatten_singleton, List.take_append_drop]

/-- Where commas are left out and everything in the groups is kept, the groups are left. -/
theorem filter_intercalate {keep : Char → Bool} (hcomma : keep ',' = false) :
    ∀ {groups : List (List Char)}, (∀ group ∈ groups, ∀ c ∈ group, keep c = true) →
      (List.intercalate [','] groups).filter keep = groups.flatten
  | [], _ => rfl
  | [group], hkeep => by
      have hgroup := List.filter_eq_self.mpr (hkeep group List.mem_cons_self)
      simp [List.intercalate, hgroup]
  | first :: second :: rest, hkeep => by
      have hfirst := List.filter_eq_self.mpr (hkeep first List.mem_cons_self)
      have hrest : (List.intercalate [','] (second :: rest)).filter keep
          = (second :: rest).flatten :=
        filter_intercalate hcomma fun group hgroup =>
          hkeep group (List.mem_cons_of_mem first hgroup)
      rw [List.intercalate_cons_cons, List.filter_append, List.filter_append, hfirst, hrest,
        List.filter_singleton, hcomma]
      simp

/-- Groups of digits are what is left without the commas. -/
theorem filter_ne_comma {groups : List (List Char)}
    (hgroups : ∀ group ∈ groups, ∀ c ∈ group, c.isDigit = true) :
    (List.intercalate [','] groups).filter (· != ',') = groups.flatten := by
  refine filter_intercalate rfl fun group hgroup c hc => bne_iff_ne.mpr ?_
  rintro rfl
  cases hgroups group hgroup ',' hc

/-! ### Decimals -/

theorem trimZeros_eq (digits : List Char) :
    trimZeros digits = digits.rdropWhile (· == '0') := rfl

theorem trimZeros_prefix (digits : List Char) : trimZeros digits <+: digits :=
  List.rdropWhile_prefix _ digits

/-- Only zeros are dropped. -/
theorem exists_eq_trimZeros_append (digits : List Char) :
    ∃ count, digits = trimZeros digits ++ List.replicate count '0' := by
  have hzeros : ∀ c ∈ digits.rtakeWhile (· == '0'), c = '0' := fun c hc => by
    simpa using List.mem_rtakeWhile_imp hc
  refine ⟨(digits.rtakeWhile (· == '0')).length, ?_⟩
  rw [trimZeros_eq, ← List.eq_replicate_of_mem hzeros, List.rdropWhile_append_rtakeWhile]

/-- No zero is left at the end. -/
theorem getLast?_trimZeros (digits : List Char) : (trimZeros digits).getLast? ≠ some '0' := by
  intro hlast
  have hne : trimZeros digits ≠ [] := fun hnil => by
    rw [hnil] at hlast
    cases hlast
  rw [List.getLast?_eq_some_getLast hne] at hlast
  have hkept := List.rdropWhile_last_not (· == '0') digits hne
  exact hkept (beq_iff_eq.mpr (Option.some.inj hlast))

/-- The zeros that are dropped do not count. -/
theorem ofDigitChars_trimZeros (whole fraction : List Char) :
    (Nat.ofDigitChars 10 (whole ++ trimZeros fraction) 0 : ℚ) / 10 ^ (trimZeros fraction).length
      = (Nat.ofDigitChars 10 (whole ++ fraction) 0 : ℚ) / 10 ^ fraction.length := by
  obtain ⟨count, hfraction⟩ := exists_eq_trimZeros_append fraction
  have hvalue : Nat.ofDigitChars 10 (whole ++ fraction) 0
      = 10 ^ count * Nat.ofDigitChars 10 (whole ++ trimZeros fraction) 0 := by
    rw [← Nat.ofDigitChars_replicate_zero, ← Nat.ofDigitChars_append, List.append_assoc,
      ← hfraction]
  have hlength : fraction.length = (trimZeros fraction).length + count := by
    conv_lhs => rw [hfraction, List.length_append, List.length_replicate]
  rw [hvalue, hlength, pow_add]
  push_cast
  rw [mul_comm ((10 : ℚ) ^ (trimZeros fraction).length), mul_div_mul_left _ _ (by positivity)]

/-! ### Amounts with decimals -/

/-- The digits of an amount, in groups. -/
theorem exists_groups (places : ℕ) (q : ℚ) : ∃ groups, IsIndian groups ∧
    (∀ group ∈ groups, ∀ c ∈ group, c.isDigit = true) ∧
    groups.flatten = (fixedDigits places q).1 ∧
    (grouped places (.rational q)).toList
      = List.intercalate [','] groups ++ pointed (trimZeros (fixedDigits places q).2) := by
  obtain ⟨hindian, hflatten⟩ := digitGroups_spec (Decimal.fixedDigits_fst_ne_nil places q)
  refine ⟨_, hindian, fun group hgroup c hc => ?_, hflatten, ?_⟩
  · refine (Decimal.isDigit_fixedDigits places q).1 c ?_
    rw [← hflatten]
    exact List.mem_flatten_of_mem hgroup hc
  · unfold grouped pointed
    dsimp only
    split
    · next h => rw [h, if_pos rfl, List.append_nil, String.toList_ofList, groupDigits]
    · next h => rw [if_neg h, String.toList_ofList, groupDigits]

/-- **What an amount with decimals is written as.** -/
structure WritesPlaces (places : ℕ) (q : ℚ) (text : String) : Prop where
  /-- Digits in Indian groups, and a point only in front of decimals that do not end in a zero. -/
  shape : ∃ groups fraction, text.toList = List.intercalate [','] groups ++ pointed fraction ∧
    IsIndian groups ∧ (∀ group ∈ groups, ∀ c ∈ group, c.isDigit = true) ∧
    (∀ c ∈ fraction, c.isDigit = true) ∧ fraction.length ≤ places ∧
    fraction.getLast? ≠ some '0'
  /-- Without the commas it is read as the magnitude of the amount, rounded in the last of the
  places. -/
  value : ∃ (d : Decimal) (n : ℤ),
    Numeral.read? (String.ofList (text.toList.filter (· != ','))) = some (.decimal d) ∧
    d.toRat = n / 10 ^ places ∧ RoundsTo PrefersEven (|q| * 10 ^ places) n

theorem grouped_writesPlaces (places : ℕ) (q : ℚ) :
    WritesPlaces places q (grouped places (.rational q)) := by
  obtain ⟨groups, hindian, hgroups, hflatten, htext⟩ := exists_groups places q
  have hkept := trimZeros_prefix (fixedDigits places q).2
  obtain ⟨hwhole, hfraction⟩ := Decimal.isDigit_fixedDigits places q
  have htrim : ∀ c ∈ trimZeros (fixedDigits places q).2, c.isDigit = true := fun c hc =>
    hfraction c (hkept.subset hc)
  have hlength := Decimal.length_fixedDigits places q
  constructor
  · exact ⟨groups, _, htext, hindian, hgroups, htrim,
      hkept.length_le.trans_eq hlength, getLast?_trimZeros _⟩
  · have hpointed : (pointed (trimZeros (fixedDigits places q).2)).filter (· != ',')
        = pointed (trimZeros (fixedDigits places q).2) := by
      refine List.filter_eq_self.mpr fun c hc => bne_iff_ne.mpr ?_
      rintro rfl
      unfold pointed at hc
      split at hc
      · cases hc
      · rcases List.mem_cons.mp hc with hpoint | hc
        · cases hpoint
        · cases htrim ',' hc
    have hfilter := filter_ne_comma hgroups
    have hread := Numeral.read?_digits (Decimal.fixedDigits_fst_ne_nil places q) hwhole htrim
    rw [← hflatten, ← hfilter, ← hpointed, ← List.filter_append, ← htext] at hread
    refine ⟨_, _, hread, ?_, Decimal.fixedDigits_roundsTo places q⟩
    rw [hfilter, hflatten, Decimal.toRat_ofDigits, ofDigitChars_trimZeros, hlength,
      Int.cast_natCast]

/-! ### Whole rupees -/

/-- A quotient that is moved by a half and cut off is rounded, and a half goes up. -/
theorem halfUp_roundsTo (num : ℕ) {den : ℕ} (hden : 0 < den) :
    RoundsTo PrefersOuter ((num : ℚ) / den) ((2 * num + den) / (2 * den) : ℕ) := by
  have hleast : (0 : ℚ) ≤ (num : ℚ) / den := by positivity
  have hmoved : (num : ℚ) / den + 1 / 2 = (2 * num + den : ℕ) / (2 * den : ℕ) := by
    push_cast
    field_simp
  have hlow : (((2 * num + den) / (2 * den) : ℕ) : ℚ) ≤ (num : ℚ) / den + 1 / 2 := by
    rw [hmoved]
    exact Nat.cast_div_le
  have hhigh : (num : ℚ) / den + 1 / 2 < ((2 * num + den) / (2 * den) : ℕ) + 1 := by
    rw [hmoved, ← Nat.floor_div_eq_div (K := ℚ)]
    exact Nat.lt_floor_add_one _
  generalize (2 * num + den) / (2 * den) = size at hlow hhigh ⊢
  refine Decimal.roundsTo_of_half ?_ fun m hm hmiddle => ?_
  · rw [abs_le, Int.cast_natCast]
    constructor <;> linarith
  · rw [Int.cast_natCast] at hmiddle
    -- the number in the middle is not negative, so the lower of its neighbours is none either
    have hbelow : (m : ℚ) < (size : ℤ) + 1 := by
      rw [Int.cast_natCast]
      linarith
    have habove : ((size : ℤ) : ℚ) ≤ m + 1 := by
      rw [Int.cast_natCast]
      linarith
    have hsum : (0 : ℚ) ≤ m + (size : ℤ) := by
      rw [Int.cast_natCast]
      linarith
    norm_cast at hbelow habove hsum
    have hm' : m = size - 1 := by omega
    rw [PrefersOuter, abs_of_nonneg (by omega), abs_of_nonneg (by omega)]
    omega

theorem roundHalfAway_roundsTo (q : ℚ) : RoundsTo PrefersOuter q (roundHalfAway q) := by
  have hsize := halfUp_roundsTo q.num.natAbs q.den_pos
  rw [← Decimal.abs_eq_natAbs_div] at hsize
  unfold roundHalfAway
  dsimp only
  split
  · next hnegative =>
      have hq : q = -|q| := by
        rw [abs_of_neg (Rat.num_neg.mp hnegative), neg_neg]
      have hneg := hsize.neg
      rwa [← hq] at hneg
  · next hnonneg =>
      have hq : |q| = q := abs_of_nonneg (Rat.num_nonneg.mp (not_lt.mp hnonneg))
      rwa [hq] at hsize

/-- Whether a character stands in an amount beside its digits: a minus sign, the sign of the rupee
or a comma. -/
def isMark (c : Char) : Bool := c == '-' || c == '₹' || c == ','

/-- The number that a text in rupees shows: its digits without the marks, negated if there is a
minus sign. -/
def readRupees (text : String) : ℤ :=
  let size : ℤ := Nat.ofDigitChars 10 (text.toList.filter fun c => !isMark c) 0
  if '-' ∈ text.toList then -size else size

/-- **What an amount in whole rupees is written as.** -/
structure WritesRupees (q : ℚ) (text : String) : Prop where
  /-- The sign of the rupee and digits in Indian groups, behind a minus sign if the number that is
  shown is negative. -/
  shape : ∃ sign groups, text.toList = sign ++ '₹' :: List.intercalate [','] groups ∧
    IsIndian groups ∧ (∀ group ∈ groups, ∀ c ∈ group, c.isDigit = true) ∧
    sign = if readRupees text < 0 then ['-'] else []
  /-- The number that is shown is the amount, rounded with a half going away from zero. -/
  value : RoundsTo PrefersOuter q (readRupees text)

/-- What is read from an amount that is written with digits in groups. -/
theorem readRupees_eq {text : String} {groups : List (List Char)} {negative : Bool}
    (htext : text.toList = (if negative then ['-'] else []) ++ '₹' :: List.intercalate [','] groups)
    (hgroups : ∀ group ∈ groups, ∀ c ∈ group, c.isDigit = true) :
    readRupees text = if negative then -(Nat.ofDigitChars 10 groups.flatten 0 : ℤ)
      else Nat.ofDigitChars 10 groups.flatten 0 := by
  have hfilter : (List.intercalate [','] groups).filter (fun c => !isMark c) = groups.flatten := by
    refine filter_intercalate rfl fun group hgroup c hc => ?_
    have hdigit := hgroups group hgroup c hc
    simp only [isMark, Bool.not_eq_true', Bool.or_eq_false_iff, beq_eq_false_iff_ne]
    refine ⟨⟨?_, ?_⟩, ?_⟩ <;> rintro rfl <;> cases hdigit
  have hminus : '-' ∉ List.intercalate [','] groups := by
    intro hmem
    have hdigits : '-' ∈ groups.flatten := by
      rw [← filter_ne_comma hgroups]
      exact List.mem_filter.mpr ⟨hmem, rfl⟩
    obtain ⟨group, hgroup, hmem⟩ := List.mem_flatten.mp hdigits
    cases hgroups group hgroup '-' hmem
  have hmark : isMark '-' = true ∧ isMark '₹' = true := by decide
  unfold readRupees
  dsimp only
  rw [htext]
  cases negative with
  | true => simp [hfilter, hmark]
  | false => simp [hfilter, hmark, hminus]

/-- The digits of a whole number of rupees denote its magnitude. -/
theorem ofDigitChars_fixedDigits_intCast (n : ℤ) :
    (Nat.ofDigitChars 10 (fixedDigits 0 (n : ℚ)).1 0 : ℤ) = |n| := by
  have hempty : (fixedDigits 0 (n : ℚ)).2 = [] :=
    List.length_eq_zero_iff.mp (Decimal.length_fixedDigits 0 n)
  have hrounds := Decimal.fixedDigits_roundsTo 0 n
  rw [hempty, List.append_nil, pow_zero, mul_one, ← Int.cast_abs] at hrounds
  exact hrounds.eq_of_intCast

theorem rupees_writesRupees (q : ℚ) : WritesRupees q (rupees (.rational q)) := by
  obtain ⟨groups, hindian, hgroups, hflatten, hgrouped⟩ := exists_groups 0 (roundHalfAway q)
  have hpoint : pointed (trimZeros (fixedDigits 0 (roundHalfAway q : ℚ)).2) = [] := rfl
  have hsize := ofDigitChars_fixedDigits_intCast (roundHalfAway q)
  rw [hpoint, List.append_nil] at hgrouped
  rw [← hflatten] at hsize
  have htext : (rupees (.rational q)).toList
      = (if decide (roundHalfAway q < 0) then ['-'] else [])
        ++ '₹' :: List.intercalate [','] groups := by
    unfold rupees
    dsimp only
    rw [Rat.mkRat_one, String.toList_append, String.toList_append, hgrouped, List.append_assoc]
    by_cases hnegative : roundHalfAway q < 0 <;> simp [hnegative]
  have hread : readRupees (rupees (.rational q)) = roundHalfAway q := by
    rw [readRupees_eq htext hgroups, hsize]
    by_cases hnegative : roundHalfAway q < 0
    · simp [hnegative, abs_of_neg]
    · simp [hnegative, abs_of_nonneg (not_lt.mp hnegative)]
  constructor
  · refine ⟨_, groups, htext, hindian, hgroups, ?_⟩
    simp only [hread, decide_eq_true_eq]
  · rw [hread]
    exact roundHalfAway_roundsTo q

/-- **Amounts are written faithfully.** -/
theorem rupees_faithful : (∀ q, WritesRupees q (rupees (.rational q))) ∧
    (∀ places q, WritesPlaces places q (grouped places (.rational q))) ∧
    Function.Injective fun n : ℤ => rupees (.rational n) := by
  refine ⟨rupees_writesRupees, grouped_writesPlaces, ?_⟩
  intro m n hequal
  dsimp only at hequal
  have hm := (rupees_writesRupees m).value.eq_of_intCast
  have hn := (rupees_writesRupees n).value.eq_of_intCast
  rw [← hm, hequal, hn]

example : rupees (.rational (-2469135 / 2)) = "-₹12,34,568" ∧
    grouped 3 (.rational (34999951 / 100)) = "3,49,999.51" := by decide +kernel

end Baggage.Fare
