import Baggage.Report.Json

/-!
# Baggage.Proofs.Report.Json

**How results look as JSON**, character by character. The service puts an object on one line
(`oneLine`); the command line gives every field and item a line of its own (`manyLines`,
`manyLinesOf`), where a line break includes the blanks in front of the next line. Apart from this
the two agree: the text of a number, a name or a message is the same in both.

`Solution.line` and `Solution.lines` spell out a solution, `Quote.line` and `Quote.lines` a fare.
That the printer writes just these texts is a matter of its recursion over the fields
(`compact_object`, `prettyAt_object`), and of names that need no escapes (`IsPlain`).
-/

namespace Baggage

namespace Json

/-! ### Texts -/

/-- The text of a double, which is `null` if it is not finite. -/
def numberText (x : Float) : String := if x.isFinite then numberLayout.write x else "null"

/-- The text of a truth value. -/
def truthText (b : Bool) : String := if b then "true" else "false"

/-- An object on one line, from the names and the texts of its fields. -/
def oneLine (fields : List (String × String)) : String :=
  "\x7b" ++ ",".intercalate (fields.map fun field => "\"" ++ field.1 ++ "\":" ++ field.2) ++ "\x7d"

/-- An array on one line, from the texts of its items. -/
def oneLineOf (items : List String) : String := "[" ++ ",".intercalate items ++ "]"

/-- An object with a line for each field. The line break `outer` stands before the last brace, and
`inner` before each field. -/
def manyLines (outer inner : String) (fields : List (String × String)) : String :=
  "\x7b" ++ inner
    ++ ("," ++ inner).intercalate (fields.map fun field => "\"" ++ field.1 ++ "\": " ++ field.2)
    ++ outer ++ "\x7d"

/-- An array with a line for each item; without items, both brackets are on one line. -/
def manyLinesOf (outer inner : String) (items : List String) : String :=
  if items.isEmpty then "[]"
  else "[" ++ inner ++ ("," ++ inner).intercalate items ++ outer ++ "]"

/-! ### The printer -/

/-- Whether a text stands in quotes as it is. -/
def IsPlain (s : String) : Prop := ∀ c ∈ s.toList, escapeChar c = [c]

-- Named, since a search may find the instance that runs over every character there is.
instance (s : String) : Decidable (IsPlain s) := List.decidableBAll _ s.toList

theorem IsPlain.quote_eq {s : String} (h : IsPlain s) : quote s = "\"" ++ s ++ "\"" := by
  have hflat (text : List Char) (htext : ∀ c ∈ text, escapeChar c = [c]) :
      text.flatMap escapeChar = text := by
    induction text with
    | nil => rfl
    | cons c rest ih =>
      obtain ⟨hc, hrest⟩ := List.forall_mem_cons.mp htext
      rw [List.flatMap_cons, hc, ih hrest, List.singleton_append]
  rw [quote, hflat s.toList h, String.ofList_toList]

theorem compactItems_eq (items : List Json) : compactItems items = items.map compact := by
  induction items with
  | nil => rfl
  | cons item rest ih => rw [compactItems, ih, List.map_cons]

theorem prettyItems_eq (level : Nat) (items : List Json) :
    prettyItems level items = items.map (prettyAt level) := by
  induction items with
  | nil => rfl
  | cons item rest ih => rw [prettyItems, ih, List.map_cons]

theorem compactFields_eq (fields : List (String × Json)) :
    compactFields fields = fields.map fun field => quote field.1 ++ ":" ++ field.2.compact := by
  induction fields with
  | nil => rfl
  | cons field rest ih => rw [compactFields, ih, List.map_cons]

theorem compact_array (items : List Json) :
    (Json.array items).compact = oneLineOf (items.map compact) := by
  rw [compact, compactItems_eq, oneLineOf]

theorem prettyAt_array (level : Nat) (items : List Json) :
    prettyAt level (.array items)
      = manyLinesOf (newline level) (newline (level + 1)) (items.map (prettyAt (level + 1))) := by
  cases items with
  | nil => rfl
  | cons item rest =>
    rw [prettyAt, prettyItems_eq]
    rfl

/-- **An object is printed on one line**, with plain names as they are. -/
theorem compact_object {fields : List (String × Json)} (h : ∀ field ∈ fields, IsPlain field.1) :
    (Json.object fields).compact
      = oneLine (fields.map fun field => (field.1, field.2.compact)) := by
  have hfields : compactFields fields
      = fields.map fun field => "\"" ++ field.1 ++ "\":" ++ field.2.compact := by
    rw [compactFields_eq]
    refine List.map_congr_left fun field hfield => ?_
    rw [(h field hfield).quote_eq, @String.append_assoc _ "\"" ":"]
    rfl
  rw [compact, hfields, oneLine, List.map_map]
  rfl

/-- A double is printed in the same way on one line and on many. -/
@[simp] theorem compact_ofFloat (x : Float) : (ofFloat x).compact = numberText x := by
  unfold ofFloat numberText
  split
  · rfl
  · rfl

@[simp] theorem prettyAt_ofFloat (level : Nat) (x : Float) :
    prettyAt level (ofFloat x) = numberText x := by
  unfold ofFloat numberText
  split
  · rfl
  · rfl

@[simp] theorem compact_ofFloats (xs : List Float) :
    (ofFloats xs).compact = oneLineOf (xs.map numberText) := by
  rw [ofFloats, compact_array, List.map_map]
  exact congrArg oneLineOf (List.map_congr_left fun x _ => compact_ofFloat x)

@[simp] theorem prettyAt_ofFloats (level : Nat) (xs : List Float) :
    prettyAt level (ofFloats xs)
      = manyLinesOf (newline level) (newline (level + 1)) (xs.map numberText) := by
  rw [ofFloats, prettyAt_array, List.map_map]
  exact congrArg _ (List.map_congr_left fun x _ => prettyAt_ofFloat (level + 1) x)

@[simp] theorem prettyAt_ofNat (level n : Nat) : prettyAt level (ofNat n) = toString n := by
  rw [ofNat, prettyAt, Number.write]
  rfl

end Json

open Json (numberText truthText oneLine oneLineOf manyLines manyLinesOf quote)

/-! ### Solutions -/

namespace LinearProgram

/-- A solution as the service shows it. -/
def Solution.line (s : Solution Float) : String :=
  oneLine [("values", oneLineOf (s.values.map numberText)),
    ("objectiveValue", numberText s.objective)]

/-- The report on a row as the command line shows it. -/
def RowReport.lines (r : RowReport Float) : String :=
  manyLines "\n      " "\n        "
    [("name", quote r.name), ("activity", numberText r.activity), ("slack", numberText r.slack),
      ("shadowPrice", numberText r.shadowPrice), ("binding", truthText r.binding)]

/-- A solution as the command line shows it. -/
def Solution.lines (s : Solution Float) : String :=
  manyLines "\n" "\n  "
    [("values", manyLinesOf "\n  " "\n    " (s.values.map numberText)),
      ("objectiveValue", numberText s.objective),
      ("iterations", toString s.iterations),
      ("analysis", manyLines "\n  " "\n    "
        [("constraints", manyLinesOf "\n    " "\n      " (s.rows.map RowReport.lines))])] ++ "\n"

/-- The names of the fields of a solution, and of the report on a row, need no escapes. -/
theorem isPlain_names : ∀ name ∈ ["values", "objectiveValue", "iterations", "analysis",
    "constraints", "name", "activity", "slack", "shadowPrice", "binding"], Json.IsPlain name := by
  decide

/-- **The service shows a solution as spelled out.** -/
theorem Solution.compact_toJson (s : Solution Float) : s.toJson.compact = s.line := by
  rw [toJson, Json.compact_object (by simp [coreFields, isPlain_names])]
  simp [coreFields, line]

end LinearProgram

/-! ### Fares -/

namespace Fare.Quote

/-- The texts of the prices in rupees. -/
def priceTexts (q : Quote Float) : List (String × String) :=
  [("baseFare", quote q.baseFareText), ("excessCharge", quote q.excessChargeText),
    ("totalFare", quote q.totalFareText)]

/-- The texts of a fare, with a given one for the prices in rupees. -/
def texts (breakdown : String) (q : Quote Float) : List (String × String) :=
  [("travelClass", quote q.travelClass.name), ("luggageWeight", numberText q.weight),
    ("weightLimit", numberText q.limit), ("isExcess", truthText q.isExcess),
    ("excessWeight", numberText q.excessWeight), ("baseFare", numberText q.baseFare),
    ("excessCharge", numberText q.excessCharge), ("totalFare", numberText q.totalFare),
    ("message", quote q.message), ("weightLimitMessage", quote q.limitMessage),
    ("breakdown", breakdown)]

/-- A fare as the service shows it. -/
def line (q : Quote Float) : String := oneLine (q.texts (oneLine q.priceTexts))

/-- A fare as the command line shows it. -/
def lines (q : Quote Float) : String :=
  manyLines "\n" "\n  " (q.texts (manyLines "\n  " "\n    " q.priceTexts)) ++ "\n"

/-- The names of the fields of a fare, and of its prices, need no escapes. -/
theorem isPlain_names : ∀ name ∈ ["travelClass", "luggageWeight", "weightLimit", "isExcess",
    "excessWeight", "baseFare", "excessCharge", "totalFare", "message", "weightLimitMessage",
    "breakdown"], Json.IsPlain name := by decide

/-- **The service shows a fare as spelled out.** -/
theorem compact_toJson (q : Quote Float) : q.toJson.compact = q.line := by
  have hbreakdown : q.breakdownJson.compact = oneLine q.priceTexts := by
    rw [breakdownJson, Json.compact_object (by simp [isPlain_names])]
    simp [priceTexts, Json.compact]
  rw [toJson, Json.compact_object (by simp [isPlain_names])]
  simp [line, texts, hbreakdown, Json.compact, truthText]

end Fare.Quote

end Baggage
