import Baggage.Fare.Quote
import Baggage.Proofs.Selection.Budgets
import Baggage.Settings.Reader

/-!
# Baggage.Proofs.Fare.Pricing

**Accepted settings price sanely.** Settings are accepted only if none of their amounts is negative
(`Settings.fault?_eq_none_iff`), and of all that is read from a text nothing else is let through
(`Settings.isAcceptable_of_parse`), whichever allowances the text leaves to the standard ones.

That is all that pricing needs. A budget taken from an allowance is never a reason to refuse pieces
(`Selector.create_faultsPieces`), and the price of a weight is the base price plus a charge that
grows with the weight above the limit, at the rate of the class and never faster
(`Table.price_grows`). The two ways to ask for a price differ in the weight zero alone
(`Table.quoteSelection_eq_quote`).
-/

namespace Baggage

/-! ### Acceptable settings -/

namespace Settings

/-- What settings must be: no amount is negative, and the solver has a tolerance and a pivot to
work with. -/
structure IsAcceptable (s : Settings ℚ) : Prop where
  /-- The tolerance is positive. -/
  tolerance : 0 < s.solver.tolerance
  /-- At least one pivot is allowed. -/
  maxIterations : s.solver.maxIterations ≠ some 0
  /-- The charge for excess weight is not negative. -/
  excessRate : 0 ≤ s.selecting.excessRate
  /-- No amount of an allowance is negative. -/
  allowance : ∀ c, 0 ≤ (s.fares.get c).standardLimit ∧ 0 ≤ (s.fares.get c).basePrice ∧
    0 ≤ (s.fares.get c).excessChargePerKg

/-- A check passes if its condition does not hold and the checks behind it pass. -/
theorem ite_some_eq_none_iff {β : Type} {p : Prop} [Decidable p] {fault : β} {rest : Option β} :
    (if p then some fault else rest) = none ↔ ¬ p ∧ rest = none := by
  by_cases h : p <;> simp [h]

theorem allowanceFault?_eq_none_iff {c : Fare.TravelClass} {a : Fare.Allowance ℚ} :
    allowanceFault? c a = none ↔
      0 ≤ a.standardLimit ∧ 0 ≤ a.basePrice ∧ 0 ≤ a.excessChargePerKg := by
  simp only [allowanceFault?, ite_some_eq_none_iff, Bool.not_eq_true', Bool.not_eq_false,
    Selection.Selector.isAmount_iff, and_true]

/-- **Settings are accepted exactly if they are acceptable**: no field is left unchecked. -/
theorem fault?_eq_none_iff {s : Settings ℚ} : s.fault? = none ↔ s.IsAcceptable := by
  have hall (c : Fare.TravelClass) : c ∈ Fare.TravelClass.all := by cases c <;> decide
  simp only [fault?, ite_some_eq_none_iff, List.findSome?_eq_none_iff, hall, forall_const,
    allowanceFault?_eq_none_iff, Bool.not_eq_true', Bool.not_eq_false,
    Selection.Selector.isAmount_iff, Arithmetic.rat_isFinite, Arithmetic.rat_le,
    Arithmetic.rat_zero, Bool.not_true, Bool.false_or, decide_eq_true_eq, not_le]
  exact ⟨fun ⟨htolerance, hiterations, hrate, hallowance⟩ =>
      ⟨htolerance, hiterations, hrate, hallowance⟩,
    fun h => ⟨h.tolerance, h.maxIterations, h.excessRate, h.allowance⟩⟩

/-- The standard settings pass their own check. -/
theorem isAcceptable_standard : (standard : Settings ℚ).IsAcceptable :=
  fault?_eq_none_iff.mp (by decide +kernel)

/-- Whatever is read from a text is acceptable. -/
theorem isAcceptable_of_parse {text : String} {s : Settings ℚ} (h : parse text = .ok s) :
    s.IsAcceptable := by
  unfold parse at h
  split at h
  · cases h
  · split at h
    · cases h
    · split at h
      · cases h
      · next hfault =>
          obtain rfl := Except.ok.inj h
          exact fault?_eq_none_iff.mp hfault

end Settings

/-! ### Pieces within a budget -/

namespace Selection.Selector

variable {α : Type} [Arithmetic α]

/-- The faults that lie in the weights and the values of pieces, and in nothing else. -/
inductive FaultsPieces (weights values : List α) : Fault α → Prop where
  /-- There are not as many values as weights. -/
  | lengths (h : weights.length ≠ values.length) :
      FaultsPieces weights values (.lengths weights.length values.length)
  /-- A weight is negative or not finite. -/
  | pieceWeight {index : ℕ} {weight : α} (h : weights[index]? = some weight)
      (hweight : isAmount weight = false) : FaultsPieces weights values (.pieceWeight index)
  /-- A value is not finite. -/
  | pieceValue {index : ℕ} {value : α} (h : values[index]? = some value)
      (hvalue : Arithmetic.isFinite value = false) :
      FaultsPieces weights values (.pieceValue index)

/-- **An acceptable budget is no reason to refuse pieces.** -/
theorem create_faultsPieces {weights values : List α} {budget : Budget α}
    (hweight : isAmount budget.maxWeight = true)
    (hprice : Arithmetic.isFinite budget.basePrice = true) {fault : Fault α}
    (h : create weights values budget = .error fault) : FaultsPieces weights values fault := by
  unfold create at h
  split at h
  · next found hfault =>
      obtain rfl := Except.error.inj h
      -- the checks in their order; only after those of the pieces the budget is looked at
      unfold fault? at hfault
      split at hfault
      · next hlength =>
          obtain rfl := Option.some.inj hfault
          exact .lengths hlength
      · split at hfault
        · next index hindex =>
            obtain rfl := Option.some.inj hfault
            obtain ⟨hlt, hweight, -⟩ := List.findIdx?_eq_some_iff_getElem.mp hindex
            exact .pieceWeight (List.getElem?_eq_getElem hlt) (by simpa using hweight)
        · split at hfault
          · next index hindex =>
              obtain rfl := Option.some.inj hfault
              obtain ⟨hlt, hvalue, -⟩ := List.findIdx?_eq_some_iff_getElem.mp hindex
              exact .pieceValue (List.getElem?_eq_getElem hlt) (by simpa using hvalue)
          · simp [hweight, hprice] at hfault
  · cases h

/-- A selector is made exactly if there is no fault. -/
theorem create_isOk_iff {weights values : List α} {budget : Budget α} :
    (∃ selector, create weights values budget = .ok selector)
      ↔ fault? weights values budget = none := by
  unfold create
  cases fault? weights values budget with
  | some fault => simp
  | none => simp

end Selection.Selector

/-! ### Prices -/

namespace Fare

/-- What two quotes of a class must say, the second one for at least the weight of the first: that
more luggage never costs less, and no more than the charge for what was added. -/
structure Quote.Grows (allowance : Allowance ℚ) (lighter heavier : Quote ℚ) : Prop where
  /-- Nobody is paid for travelling. -/
  base_nonneg : 0 ≤ lighter.baseFare
  /-- The base price does not depend on the weight. -/
  base_eq : heavier.baseFare = lighter.baseFare
  /-- The base price is the least that is due. -/
  base_le : lighter.baseFare ≤ lighter.totalFare
  /-- More luggage never costs less. -/
  total_le : lighter.totalFare ≤ heavier.totalFare
  /-- Nothing costs more than at the rate of the class. -/
  total_sub_le : heavier.totalFare - lighter.totalFare
    ≤ allowance.excessChargePerKg * (heavier.weight - lighter.weight)
  /-- Above the limit, everything is billed at the rate of the class. -/
  total_sub_eq : allowance.standardLimit ≤ lighter.weight →
    heavier.totalFare - lighter.totalFare
      = allowance.excessChargePerKg * (heavier.weight - lighter.weight)
  /-- The first weight is called excessive exactly if there is an excess. -/
  lighter_isExcess : lighter.isExcess = true ↔ 0 < lighter.excessWeight
  /-- The second weight is called excessive exactly if there is an excess. -/
  heavier_isExcess : heavier.isExcess = true ↔ 0 < heavier.excessWeight

namespace Table

open Selection (Choice)
open Selection.Selector (create FaultsPieces)

section Price

variable (t : Table ℚ) (c : TravelClass) (weight : ℚ)

theorem excessWeight_price :
    (t.price weight c).excessWeight = max (weight - (t.get c).standardLimit) 0 :=
  Arithmetic.rat_positivePart _

theorem totalFare_price : (t.price weight c).totalFare = (t.get c).basePrice
    + max (weight - (t.get c).standardLimit) 0 * (t.get c).excessChargePerKg := by
  rw [← excessWeight_price]
  rfl

theorem isExcess_price :
    (t.price weight c).isExcess = true ↔ 0 < (t.price weight c).excessWeight := by
  rw [excessWeight_price, lt_max_iff, or_iff_left (lt_irrefl _), sub_pos]
  exact decide_eq_true_iff

/-- A weight has a price exactly if it is positive. -/
theorem quote_eq : t.quote weight c = if weight ≤ 0 then .error .weight
    else .ok (t.price weight c) := by
  simp [quote]

/-- A selection has the price of its weight, unless that is negative. -/
theorem quoteSelection_eq (choice : Choice ℚ) : t.quoteSelection choice c
    = if choice.weight < 0 then .error .weight else .ok (t.price choice.weight c) := by
  simp [quoteSelection]

/-- The two ways to ask for a price agree on every weight but zero, on those that they refuse
too. -/
theorem quoteSelection_eq_quote {choice : Choice ℚ} (h : choice.weight ≠ 0) :
    t.quoteSelection choice c = t.quote choice.weight c := by
  have hle : choice.weight ≤ 0 ↔ choice.weight < 0 := h.le_iff_lt
  rw [quoteSelection_eq, quote_eq]
  simp only [hle]

/-- Only an empty selection has a price although its weight has none. -/
theorem only_selection_quoted_iff (choice : Choice ℚ) :
    (∃ q fault, t.quoteSelection choice c = .ok q ∧ t.quote choice.weight c = .error fault)
      ↔ choice.weight = 0 := by
  constructor
  · rintro ⟨q, fault, hselection, hquote⟩
    by_contra hne
    rw [quoteSelection_eq_quote t c hne, hquote] at hselection
    cases hselection
  · intro hzero
    refine ⟨t.price choice.weight c, .weight, ?_, ?_⟩
    · rw [quoteSelection_eq, if_neg hzero.not_lt]
    · rw [quote_eq, if_pos hzero.le]

end Price

section Growth

variable {t : Table ℚ} {c : TravelClass} {lighter heavier : ℚ}

/-- What lies above a limit grows with the weight. -/
theorem excess_le (limit : ℚ) (hle : lighter ≤ heavier) :
    max (lighter - limit) 0 ≤ max (heavier - limit) 0 :=
  max_le_max_right 0 (sub_le_sub_right hle limit)

/-- What lies above a limit grows no faster than the weight. -/
theorem excess_sub_le (limit : ℚ) (hle : lighter ≤ heavier) :
    max (heavier - limit) 0 - max (lighter - limit) 0 ≤ heavier - lighter := by
  have hlighter : lighter - limit ≤ max (lighter - limit) 0 := le_max_left _ _
  have hzero : 0 ≤ max (lighter - limit) 0 := le_max_right _ _
  rw [sub_le_iff_le_add]
  exact max_le (by linarith) (by linarith)

/-- The difference of two prices is the charge for the difference of the excesses. -/
theorem totalFare_sub : (t.price heavier c).totalFare - (t.price lighter c).totalFare
    = (t.get c).excessChargePerKg * (max (heavier - (t.get c).standardLimit) 0
      - max (lighter - (t.get c).standardLimit) 0) := by
  rw [totalFare_price, totalFare_price]
  ring

/-- **Prices grow sanely** if the base price and the charge are not negative. -/
theorem price_grows (hbase : 0 ≤ (t.get c).basePrice)
    (hrate : 0 ≤ (t.get c).excessChargePerKg) (hle : lighter ≤ heavier) :
    (t.price lighter c).Grows (t.get c) (t.price heavier c) where
  base_nonneg := hbase
  base_eq := rfl
  base_le := by
    rw [totalFare_price]
    exact le_add_of_nonneg_right (mul_nonneg (le_max_right _ _) hrate)
  total_le := by
    rw [← sub_nonneg, totalFare_sub]
    exact mul_nonneg hrate (sub_nonneg.mpr (excess_le _ hle))
  total_sub_le := by
    rw [totalFare_sub]
    exact mul_le_mul_of_nonneg_left (excess_sub_le _ hle) hrate
  total_sub_eq := by
    intro (hlimit : (t.get c).standardLimit ≤ lighter)
    rw [totalFare_sub, max_eq_left (sub_nonneg.mpr hlimit),
      max_eq_left (sub_nonneg.mpr (hlimit.trans hle)), sub_sub_sub_cancel_right]
    rfl
  lighter_isExcess := t.isExcess_price c lighter
  heavier_isExcess := t.isExcess_price c heavier

end Growth

/-- **What makes a table of allowances sane** for a class: pieces are never refused because of the
budget of the class, prices grow with the weight, and a selection is priced like its weight. -/
structure IsSane (t : Table ℚ) (c : TravelClass) : Prop where
  /-- What is wrong with pieces is wrong with their weights or values. -/
  faultsPieces : ∀ weights values fault,
    create weights values (t.budget c) = .error fault → FaultsPieces weights values fault
  /-- Pieces are taken exactly if there are as many values as weights, and no weight is negative. -/
  create_isOk : ∀ weights values, (∃ selector, create weights values (t.budget c) = .ok selector)
    ↔ weights.length = values.length ∧ ∀ weight ∈ weights, 0 ≤ weight
  /-- Positive weights have prices, and they grow. -/
  grows : ∀ lighter heavier, 0 < lighter → lighter ≤ heavier →
    ∃ q r, t.quote lighter c = .ok q ∧ t.quote heavier c = .ok r ∧ q.weight = lighter
      ∧ r.weight = heavier ∧ q.Grows (t.get c) r
  /-- A selection with a positive weight has the price of its weight. -/
  selection : ∀ choice : Choice ℚ, 0 < choice.weight →
    t.quoteSelection choice c = t.quote choice.weight c
  /-- Only an empty selection has a price although its weight has none. -/
  only_zero : ∀ choice : Choice ℚ,
    (∃ q fault, t.quoteSelection choice c = .ok q ∧ t.quote choice.weight c = .error fault)
      ↔ choice.weight = 0

/-- Amounts that are not negative make a table sane. -/
theorem isSane_of_nonneg {t : Table ℚ} {c : TravelClass} (hlimit : 0 ≤ (t.get c).standardLimit)
    (hbase : 0 ≤ (t.get c).basePrice) (hrate : 0 ≤ (t.get c).excessChargePerKg) : t.IsSane c where
  faultsPieces _ _ _ := Selection.Selector.create_faultsPieces
    ((Selection.Selector.isAmount_iff _).mpr hlimit) (Arithmetic.rat_isFinite _)
  create_isOk weights values := by
    rw [Selection.Selector.create_isOk_iff, Selection.Selector.fault?_eq_none_iff, ← and_assoc]
    exact and_iff_left hlimit
  grows lighter heavier hpos hle := by
    refine ⟨_, _, ?_, ?_, rfl, rfl, price_grows hbase hrate hle⟩
    · rw [quote_eq, if_neg (not_le.mpr hpos)]
    · rw [quote_eq, if_neg (not_le.mpr (hpos.trans_le hle))]
  selection _ hpos := t.quoteSelection_eq_quote c hpos.ne'
  only_zero := t.only_selection_quoted_iff c

end Table

end Fare

/-- **Settings that are accepted price sanely**, in every class. -/
theorem Settings.parse_isSane {text : String} {s : Settings ℚ} (h : parse text = .ok s)
    (c : Fare.TravelClass) : s.fares.IsSane c := by
  obtain ⟨hlimit, hbase, hrate⟩ := (isAcceptable_of_parse h).allowance c
  exact Fare.Table.isSane_of_nonneg hlimit hbase hrate

/-- Settings that price economy class by themselves and leave the other classes as they are. -/
def Settings.cheapEconomy : String :=
  "[fares.ECONOMY]\nstandard_limit = 7.5\nbase_price = 0\nexcess_charge_per_kg = 99.9\n" ++
    "max_pieces = 1\n"

/-- They are accepted, and price sanely in economy class and in first class. -/
theorem Settings.parse_cheapEconomy_isSane : ∃ s : Settings ℚ, parse cheapEconomy = .ok s ∧
    (s.fares.get .economy).standardLimit = 15 / 2 ∧ s.fares.IsSane .economy ∧
    (s.fares.get .first).standardLimit = 40 ∧ s.fares.IsSane .first := by
  have hlimits : (parse cheapEconomy).map (fun s : Settings ℚ =>
      ((s.fares.get .economy).standardLimit, (s.fares.get .first).standardLimit))
        = .ok (15 / 2, 40) := by
    decide +kernel
  cases hparse : (parse cheapEconomy : Except ReadError (Settings ℚ)) with
  | error e =>
      rw [hparse] at hlimits
      cases hlimits
  | ok s =>
      rw [hparse] at hlimits
      obtain ⟨heconomy, hfirst⟩ := Prod.mk.inj (Except.ok.inj hlimits)
      exact ⟨s, rfl, heconomy, parse_isSane hparse .economy, hfirst, parse_isSane hparse .first⟩

end Baggage
