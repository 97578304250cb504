import Baggage.Proofs.Json.Integers
import Baggage.Proofs.Service.Answer

/-!
# Baggage.Proofs.Service.Charge

**When luggage is priced.** A body gives a weight above zero and the name of a class, or it is
refused: first for the weight, and then for the class (`charge_cases`). The price itself refuses
nothing more, as the weight of a body is finite (`Fare.Table.quote_of_isFinite`).
-/

namespace Baggage

/-- A finite weight is priced if it is above zero. -/
theorem Fare.Table.quote_of_isFinite (fares : Fare.Table Float) {weight : Float}
    (c : Fare.TravelClass) (h : weight.isFinite = true) :
    fares.quote weight c
      = if Arithmetic.lt 0.0 weight then .ok (fares.price weight c) else .error .weight := by
  have hfinite : Arithmetic.isFinite weight = true := h
  rw [Fare.Table.quote, hfinite, Arithmetic.float_le_zero h]
  cases Arithmetic.lt 0.0 weight <;> rfl

namespace Service

open Fare (TravelClass)

/-- Whether a body gives a weight: a number above zero. -/
def HasWeight (body : Json) : Prop :=
  ∃ n : Json.Number, body.HasPart "luggageWeight" (.number n) ∧ n.IsPositive

/-- Whether a body gives the name of a class, in capitals. -/
def HasClass (body : Json) : Prop :=
  ∃ name ∈ ["ECONOMY", "BUSINESS", "FIRST"], body.HasPart "travelClass" (.string name)

variable {body : Json}

/-! ### The weight and the class -/

theorem bind_float?_eq_some_iff {x : Float} :
    (body.get? "luggageWeight").bind Json.float? = some x ↔
      ∃ n : Json.Number, body.HasPart "luggageWeight" (.number n) ∧ x = n.toFloat := by
  simp only [Option.bind_eq_some_iff, Json.float?_eq_some_iff, Json.hasPart_iff]
  constructor
  · rintro ⟨part, hpart, n, rfl, rfl⟩
    exact ⟨n, ⟨by simp, hpart⟩, rfl⟩
  · rintro ⟨n, ⟨-, hpart⟩, rfl⟩
    exact ⟨_, hpart, n, rfl, rfl⟩

theorem bind_string?_eq_some_iff {name : String} :
    (body.get? "travelClass").bind Json.string? = some name ↔
      body.HasPart "travelClass" (.string name) := by
  simp only [Option.bind_eq_some_iff, Json.hasPart_iff]
  constructor
  · rintro ⟨part, hpart, hname⟩
    cases part with
    | string s =>
        obtain rfl := Option.some.inj hname
        exact ⟨by simp, hpart⟩
    | _ => cases hname
  · rintro ⟨-, hpart⟩
    exact ⟨_, hpart, rfl⟩

/-- **A weight is read exactly if there is one**, and then it can be priced. -/
theorem readWeight_cases (hfits : body.Fits) :
    (HasWeight body ∧ ∃ weight, readWeight body = .ok weight ∧ weight.isFinite = true ∧
      Arithmetic.lt 0.0 weight = true) ∨
    (¬ HasWeight body ∧ readWeight body = .error .weight) := by
  unfold readWeight
  cases hweight : (body.get? "luggageWeight").bind Json.float? with
  | none =>
      refine Or.inr ⟨?_, rfl⟩
      rintro ⟨n, hpart, -⟩
      rw [bind_float?_eq_some_iff.mpr ⟨n, hpart, rfl⟩] at hweight
      cases hweight
  | some weight =>
      obtain ⟨n, hpart, rfl⟩ := bind_float?_eq_some_iff.mp hweight
      have hn : n.Fits := by
        cases hfits.part hpart with
        | number h => exact h
      dsimp only
      cases hpositive : Arithmetic.lt 0.0 n.toFloat with
      | true =>
          exact Or.inl ⟨⟨n, hpart, hn.zero_lt_toFloat.mp hpositive⟩, _, rfl, hn.isFinite, hpositive⟩
      | false =>
          refine Or.inr ⟨?_, rfl⟩
          rintro ⟨other, hother, habove⟩
          obtain rfl := Json.number.inj (hother.unique hpart)
          rw [hn.zero_lt_toFloat.mpr habove] at hpositive
          cases hpositive

theorem readClass_cases (name : String) :
    (name ∈ ["ECONOMY", "BUSINESS", "FIRST"] ∧ ∃ c, Fare.readClass name = .ok c) ∨
    (name ∉ ["ECONOMY", "BUSINESS", "FIRST"] ∧ Fare.readClass name = .error .travelClass) := by
  unfold Fare.readClass
  cases hname : TravelClass.ofName? name with
  | some c =>
      have hfound : (c.name == name) = true :=
        (List.find?_eq_some_iff_append.mp hname).1
      obtain rfl : c.name = name := beq_iff_eq.mp hfound
      exact Or.inl ⟨by cases c <;> simp [TravelClass.name], c, rfl⟩
  | none =>
      refine Or.inr ⟨fun hmem => ?_, rfl⟩
      simp only [List.mem_cons, List.not_mem_nil, or_false] at hmem
      rcases hmem with rfl | rfl | rfl <;> cases hname

/-- A class is read exactly if there is one. -/
theorem readTravelClass_cases (body : Json) :
    (HasClass body ∧ ∃ c, readTravelClass body = .ok c) ∨
    (¬ HasClass body ∧ readTravelClass body = .error .travelClass) := by
  unfold readTravelClass
  cases hclass : (body.get? "travelClass").bind Json.string? with
  | none =>
      refine Or.inr ⟨?_, rfl⟩
      rintro ⟨name, -, hpart⟩
      rw [bind_string?_eq_some_iff.mpr hpart] at hclass
      cases hclass
  | some name =>
      have hpart := bind_string?_eq_some_iff.mp hclass
      rcases readClass_cases name with ⟨hmem, hok⟩ | ⟨hmem, herror⟩
      · exact Or.inl ⟨⟨name, hmem, hpart⟩, hok⟩
      · refine Or.inr ⟨?_, herror⟩
        rintro ⟨other, hother, hpart'⟩
        obtain rfl := Json.string.inj (hpart'.unique hpart)
        exact hmem hother

/-! ### The charge -/

/-- **A body is priced, or refused for its weight, or for its class alone.** -/
theorem charge_cases (fares : Fare.Table Float) (hfits : body.Fits) :
    (HasWeight body ∧ HasClass body ∧ ∃ quote, charge fares body = .ok quote) ∨
    (¬ HasWeight body ∧ charge fares body = .error (.unpriced .weight)) ∨
    (HasWeight body ∧ ¬ HasClass body ∧ charge fares body = .error (.unpriced .travelClass)) := by
  unfold charge
  rcases readWeight_cases hfits with
    ⟨hweight, weight, hok, hfinite, hpositive⟩ | ⟨hweight, herror⟩
  · rcases readTravelClass_cases body with ⟨hclass, c, hc⟩ | ⟨hclass, herror⟩
    · have hquote := fares.quote_of_isFinite c hfinite
      rw [hpositive, if_pos rfl] at hquote
      rw [hok, hc]
      exact Or.inl ⟨hweight, hclass, _, congrArg (Except.mapError Failure.unpriced) hquote⟩
    · rw [hok, herror]
      exact Or.inr (Or.inr ⟨hweight, hclass, rfl⟩)
  · rw [herror]
    exact Or.inr (Or.inl ⟨hweight, rfl⟩)

end Service

end Baggage
