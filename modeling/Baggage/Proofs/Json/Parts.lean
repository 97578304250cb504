import Baggage.Json.Value

/-!
# Baggage.Proofs.Json.Parts

**The parts of JSON objects.** A part is found by its name; of several fields of one name the last
counts, and `null` counts as nothing. `Json.HasPart` says so without a search, and `get?` and
`present?` are read as it (`hasPart_iff`, `present?_eq_some_iff`, `present?_eq_none_iff`).
-/

namespace Baggage

namespace Json

/-- Whether a value is an object with a part of this name. Of several fields of one name the last
one counts, and `null` counts as nothing. -/
def HasPart (value : Json) (name : String) (part : Json) : Prop :=
  part ≠ .null ∧ ∃ before after, value = .object (before ++ (name, part) :: after) ∧
    ∀ field ∈ after, field.1 ≠ name

/-- Whether a value is a number. -/
def IsNumber (value : Json) : Prop := ∃ n, value = .number n

/-- Whether a value is an array. -/
def IsArray (value : Json) : Prop := ∃ items, value = .array items

theorem lastField?_eq_find? (name : String) (fields : List (String × Json)) :
    lastField? name fields = (fields.reverse.find? fun field => field.1 == name).map Prod.snd := by
  induction fields with
  | nil => rfl
  | cons field rest ih =>
      obtain ⟨key, value⟩ := field
      rw [lastField?, ih, List.reverse_cons, List.find?_append]
      cases rest.reverse.find? fun field => field.1 == name with
      | some later => rfl
      | none =>
          cases hkey : key == name with
          | true => simp [hkey]
          | false => simp [hkey]

theorem lastField?_eq_some_iff {name : String} {fields : List (String × Json)} {part : Json} :
    lastField? name fields = some part ↔ ∃ before after,
      fields = before ++ (name, part) :: after ∧ ∀ field ∈ after, field.1 ≠ name := by
  rw [lastField?_eq_find?, Option.map_eq_some_iff]
  constructor
  · rintro ⟨⟨key, value⟩, hfind, rfl⟩
    obtain ⟨hkey, after, before, hfields, hafter⟩ := List.find?_eq_some_iff_append.mp hfind
    obtain rfl : key = name := beq_iff_eq.mp hkey
    refine ⟨before.reverse, after.reverse, ?_, fun field hfield => ?_⟩
    · rw [← List.reverse_reverse fields, hfields]
      simp
    · simpa using hafter field (List.mem_reverse.mp hfield)
  · rintro ⟨before, after, rfl, hafter⟩
    refine ⟨(name, part), List.find?_eq_some_iff_append.mpr ⟨beq_self_eq_true name, ?_⟩, rfl⟩
    refine ⟨after.reverse, before.reverse, by simp, fun field hfield => ?_⟩
    simpa using hafter field (List.mem_reverse.mp hfield)

theorem hasPart_iff {value part : Json} {name : String} :
    value.HasPart name part ↔ part ≠ .null ∧ value.get? name = some part := by
  cases value with
  | object fields => simp [HasPart, get?, lastField?_eq_some_iff]
  | _ => simp [HasPart, get?]

theorem present?_eq_some_iff {value part : Json} {name : String} :
    value.present? name = some part ↔ value.HasPart name part := by
  rw [hasPart_iff]
  unfold present?
  split
  · next hnull => simp [hnull, eq_comm]
  · next hget =>
      refine ⟨fun h => ⟨?_, h⟩, And.right⟩
      rintro rfl
      exact hget h

theorem present?_eq_none_iff {value : Json} {name : String} :
    value.present? name = none ↔ ∀ part, ¬ value.HasPart name part := by
  simp only [Option.eq_none_iff_forall_ne_some, ne_eq, present?_eq_some_iff]

/-- A value has one part of a name at most. -/
theorem HasPart.unique {value part other : Json} {name : String} (h : value.HasPart name part)
    (h' : value.HasPart name other) : part = other := by
  rw [← present?_eq_some_iff] at h h'
  exact Option.some.inj (h.symm.trans h')

variable {value : Json}

theorem float?_eq_some_iff {x : Float} :
    value.float? = some x ↔ ∃ n : Number, value = .number n ∧ x = n.toFloat := by
  cases value <;> simp [float?, eq_comm]

theorem array?_eq_some_iff {items : List Json} :
    value.array? = some items ↔ value = .array items := by
  cases value <;> simp [array?]

theorem array?_eq_none_iff : value.array? = none ↔ ¬ value.IsArray := by
  cases value <;> simp [array?, IsArray]

end Json

end Baggage
