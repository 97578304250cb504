import Baggage.Json.Reader
import Baggage.Proofs.Decimal.Normal
import Baggage.Proofs.Json.Parts

/-!
# Baggage.Proofs.Json.Integers

**The integers of JSON values.** The type of the values has room for integers of any size, but only
those in 64 bits are exchanged (`Fits`): nothing else is ever read (`parse_fits`). Such an integer
is a finite double, and so is every other number.

Each reader is shown to give nothing but values that fit if the readers of the parts do (`Gives`);
the whole is an induction on the nesting, with one on the bound of a list inside.
-/

namespace Baggage.Json

/-- Whether a number can be exchanged: an integer only if it fits in 64 bits, signed or unsigned. -/
def Number.Fits : Number → Prop
  | .integer k => -2 ^ 63 ≤ k ∧ k < 2 ^ 64
  | .real _ _ => True

/-- Whether a number is above zero. -/
def Number.IsPositive : Number → Prop
  | .integer k => 0 < k
  | .real x _ => 0.0 < x

theorem Number.Fits.isFinite {n : Number} (h : n.Fits) : n.toFloat.isFinite = true := by
  cases n with
  | integer k => exact Decimal.isFinite_toFloat_integer h
  | real x hfinite => exact hfinite

theorem Number.Fits.zero_lt_toFloat {n : Number} (h : n.Fits) :
    Arithmetic.lt 0.0 n.toFloat = true ↔ n.IsPositive := by
  cases n with
  | integer k => exact Decimal.zero_lt_toFloat_integer h
  | real x hfinite => exact decide_eq_true_iff

/-- Whether all numbers in a value can be exchanged. -/
inductive Fits : Json → Prop where
  | null : Fits .null
  | bool {value : Bool} : Fits (.bool value)
  | number {n : Number} (h : n.Fits) : Fits (.number n)
  | string {s : String} : Fits (.string s)
  | array {items : List Json} (h : ∀ item ∈ items, Fits item) : Fits (.array items)
  | object {fields : List (String × Json)} (h : ∀ field ∈ fields, Fits field.2) :
      Fits (.object fields)

theorem Fits.part {value part : Json} {name : String} (h : value.Fits)
    (hpart : value.HasPart name part) : part.Fits := by
  obtain ⟨-, before, after, rfl, -⟩ := hpart
  cases h with
  | object hfields => exact hfields (name, part) (by simp)

/-! ### Readers -/

/-- Whether a reader gives values of a kind only. -/
def Gives {α : Type} (P : α → Prop) (read : Reader α) : Prop :=
  ∀ text value rest, read text = .ok (value, rest) → P value

/-- A step of a reader that succeeded, and what came after it. -/
theorem bind_eq_ok {α β ε : Type} {x : Except ε α} {f : α → Except ε β} {b : β}
    (h : (x >>= f) = .ok b) : ∃ a, x = .ok a ∧ f a = .ok b := by
  cases x with
  | error e => cases h
  | ok a => exact ⟨a, rfl, h⟩

theorem numberOf_fits {negative : Bool} {whole fraction : List Char} {exponent : Option ℤ}
    {n : Number} (h : numberOf negative whole fraction exponent = .ok n) : n.Fits := by
  unfold numberOf at h
  dsimp only at h
  split at h
  · next hword =>
      obtain rfl := Except.ok.inj h
      simp only [Bool.and_eq_true, isWord] at hword
      unfold Number.Fits
      cases negative with
      | true =>
          simp only [if_true, Bool.and_eq_true, decide_eq_true_eq] at hword ⊢
          omega
      | false =>
          simp only [Bool.false_eq_true, if_false, decide_eq_true_eq] at hword ⊢
          omega
  · obtain ⟨x, -, h⟩ := bind_eq_ok h
    split at h
    · obtain rfl := Except.ok.inj h
      exact trivial
    · cases h

theorem gives_readNumber : Gives Number.Fits readNumber := by
  intro text n rest h
  unfold readNumber at h
  split at h
  all_goals
    obtain ⟨⟨whole, text⟩, -, h⟩ := bind_eq_ok h
    obtain ⟨⟨fraction, text⟩, -, h⟩ := bind_eq_ok h
    obtain ⟨⟨exponent, text⟩, -, h⟩ := bind_eq_ok h
    obtain ⟨n, hn, h⟩ := bind_eq_ok h
    obtain ⟨rfl, rfl⟩ := Prod.mk.inj (Except.ok.inj h)
    exact numberOf_fits hn

theorem unexpectedAt_ne_ok {α : Type} {text : List Char} {a : α} :
    unexpectedAt text ≠ .ok a := by
  intro h
  cases text <;> cases h

variable {item array object : Reader Json}

theorem gives_readItems (hitem : Gives Fits item) {read : List Json}
    (hread : ∀ value ∈ read, value.Fits) (bound : ℕ) :
    Gives (∀ value ∈ ·, Fits value) (readItems item read bound) := by
  induction bound generalizing read with
  | zero =>
      intro text items rest h
      cases h
  | succ bound ih =>
      intro text items rest h
      obtain ⟨⟨value, text⟩, hvalue, h⟩ := bind_eq_ok h
      have hread : ∀ other ∈ value :: read, other.Fits :=
        List.forall_mem_cons.mpr ⟨hitem _ _ _ hvalue, hread⟩
      dsimp only at h
      split at h
      · exact ih hread _ _ _ h
      · obtain ⟨rfl, rfl⟩ := Prod.mk.inj (Except.ok.inj h)
        exact fun other hother => hread other (List.mem_reverse.mp hother)
      · exact absurd h unexpectedAt_ne_ok

theorem gives_readField (hitem : Gives Fits item) :
    Gives (fun field => field.2.Fits) (readField item) := by
  intro text field rest h
  unfold readField at h
  split at h
  · obtain ⟨⟨name, text⟩, -, h⟩ := bind_eq_ok h
    dsimp only at h
    split at h
    · obtain ⟨⟨value, text⟩, hvalue, h⟩ := bind_eq_ok h
      obtain ⟨rfl, rfl⟩ := Prod.mk.inj (Except.ok.inj h)
      exact hitem _ _ _ hvalue
    · exact absurd h unexpectedAt_ne_ok
  · exact absurd h unexpectedAt_ne_ok

theorem gives_readFields (hitem : Gives Fits item) {read : List (String × Json)}
    (hread : ∀ field ∈ read, field.2.Fits) (bound : ℕ) :
    Gives (∀ field ∈ ·, Fits field.2) (readFields item read bound) := by
  induction bound generalizing read with
  | zero =>
      intro text fields rest h
      cases h
  | succ bound ih =>
      intro text fields rest h
      obtain ⟨⟨field, text⟩, hfield, h⟩ := bind_eq_ok h
      have hread : ∀ other ∈ field :: read, other.2.Fits :=
        List.forall_mem_cons.mpr ⟨gives_readField hitem _ _ _ hfield, hread⟩
      dsimp only at h
      split at h
      · exact ih hread _ _ _ h
      · obtain ⟨rfl, rfl⟩ := Prod.mk.inj (Except.ok.inj h)
        exact fun other hother => hread other (List.mem_reverse.mp hother)
      · exact absurd h unexpectedAt_ne_ok

theorem gives_readArray (hitem : Gives Fits item) (bound : ℕ) :
    Gives Fits (readArray item bound) := by
  intro text value rest h
  unfold readArray at h
  split at h
  · obtain ⟨rfl, rfl⟩ := Prod.mk.inj (Except.ok.inj h)
    exact .array (List.forall_mem_nil _)
  · obtain ⟨⟨items, text⟩, hitems, h⟩ := bind_eq_ok h
    obtain ⟨rfl, rfl⟩ := Prod.mk.inj (Except.ok.inj h)
    exact .array (gives_readItems hitem (List.forall_mem_nil _) bound _ _ _ hitems)

theorem gives_readObject (hitem : Gives Fits item) (bound : ℕ) :
    Gives Fits (readObject item bound) := by
  intro text value rest h
  unfold readObject at h
  split at h
  · obtain ⟨rfl, rfl⟩ := Prod.mk.inj (Except.ok.inj h)
    exact .object (List.forall_mem_nil _)
  · obtain ⟨⟨fields, text⟩, hfields, h⟩ := bind_eq_ok h
    obtain ⟨rfl, rfl⟩ := Prod.mk.inj (Except.ok.inj h)
    exact .object (gives_readFields hitem (List.forall_mem_nil _) bound _ _ _ hfields)

theorem gives_readWord {word : List Char} {value : Json} (h : value.Fits) :
    Gives Fits (readWord word value) := by
  intro text found rest hread
  unfold readWord at hread
  split at hread
  · obtain ⟨rfl, rfl⟩ := Prod.mk.inj (Except.ok.inj hread)
    exact h
  · exact absurd hread unexpectedAt_ne_ok

theorem gives_readValueWith (harray : Gives Fits array) (hobject : Gives Fits object) :
    Gives Fits (readValueWith array object) := by
  intro text value rest h
  unfold readValueWith at h
  split at h
  · exact harray _ _ _ h
  · exact hobject _ _ _ h
  · obtain ⟨⟨s, text⟩, -, h⟩ := bind_eq_ok h
    obtain ⟨rfl, rfl⟩ := Prod.mk.inj (Except.ok.inj h)
    exact .string
  · exact gives_readWord .bool _ _ _ h
  · exact gives_readWord .bool _ _ _ h
  · exact gives_readWord .null _ _ _ h
  · split at h
    · obtain ⟨⟨n, text⟩, hn, h⟩ := bind_eq_ok h
      obtain ⟨rfl, rfl⟩ := Prod.mk.inj (Except.ok.inj h)
      exact .number (gives_readNumber _ _ _ hn)
    · cases h
  · cases h

theorem gives_readValue (bound depth : ℕ) : Gives Fits (readValue bound depth) := by
  induction depth with
  | zero =>
      -- arrays and objects are refused, and a reader that always fails gives nothing
      have hnone : Gives Fits fun _ => .error .tooDeep := by
        intro text value rest h
        cases h
      exact gives_readValueWith hnone hnone
  | succ depth ih =>
      exact gives_readValueWith (gives_readArray ih bound) (gives_readObject ih bound)

/-- **All numbers that are read can be exchanged.** -/
theorem parse_fits {text : String} {value : Json} (h : parse text = .ok value) : value.Fits := by
  obtain ⟨⟨found, rest⟩, hfound, h⟩ := bind_eq_ok h
  dsimp only at h
  split at h
  · obtain rfl := Except.ok.inj h
    exact gives_readValue _ _ _ _ _ hfound
  · cases h

theorem parseBytes_fits {bytes : ByteArray} {value : Json} (h : parseBytes bytes = .ok value) :
    value.Fits := by
  unfold parseBytes at h
  split at h
  · exact parse_fits h
  · cases h

end Baggage.Json
