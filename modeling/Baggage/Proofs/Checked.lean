import Mathlib
import Baggage.Arithmetic

/-!
# Baggage.Proofs.Checked

**Steps that can go wrong.** The algorithms of the library compute with natural numbers of any size
and with vectors whose length is part of their type, so none of their steps can fail. A machine
computes with words and with tables that know nothing of their use. This module has the steps of
such a machine, each of which gives no result where it would go wrong: a sum or a product that
exceeds a word, a difference below zero, a place outside of a table.

A computation that is made of these steps goes through if every one of them does. For a loop that
follows one of the library's own this is said once (`foldlM_map_eq_some`, `mapM_map_eq_some`).
-/

namespace Baggage.Checked

/-! ### Words -/

/-- The sum of two counts, unless it exceeds a word. -/
def add? (m n : ℕ) : Option ℕ := if m + n ≤ Exact.largestCount then some (m + n) else none

/-- The product of two counts, unless it exceeds a word. -/
def mul? (m n : ℕ) : Option ℕ := if m * n ≤ Exact.largestCount then some (m * n) else none

/-- The difference of two counts, unless it is negative. -/
def sub? (m n : ℕ) : Option ℕ := if n ≤ m then some (m - n) else none

theorem add?_of_le {m n : ℕ} (h : m + n ≤ Exact.largestCount) : add? m n = some (m + n) := if_pos h

theorem mul?_of_le {m n : ℕ} (h : m * n ≤ Exact.largestCount) : mul? m n = some (m * n) := if_pos h

theorem sub?_of_le {m n : ℕ} (h : n ≤ m) : sub? m n = some (m - n) := if_pos h

@[simp] theorem sub?_add_right (m n : ℕ) : sub? (m + n) n = some m := by
  rw [sub?_of_le (Nat.le_add_left _ _), Nat.add_sub_cancel]

/-! ### Tables -/

section Tables

variable {β γ σ τ : Type}

/-- A table with another item at a place, unless there is no such place. -/
def write? (table : List β) (place : ℕ) (item : β) : Option (List β) :=
  if place < table.length then some (table.set place item) else none

theorem write?_of_lt {table : List β} {place : ℕ} (h : place < table.length) (item : β) :
    write? table place item = some (table.set place item) := if_pos h

/-- A table of which the items at the front have been replaced is written to at the next place. -/
theorem write?_overwritten (new old : List β) {place : ℕ} (hnew : place < new.length)
    (hold : place < old.length) :
    write? (new.take place ++ old.drop place) place new[place]
      = some (new.take (place + 1) ++ old.drop (place + 1)) := by
  have htake : (new.take place).length = place := List.length_take_of_le hnew.le
  rw [write?_of_lt (by simp; omega), List.drop_eq_getElem_cons hold,
    List.take_succ_eq_append_getElem hnew, List.set_append_right _ _ htake.le, htake, Nat.sub_self,
    List.set_cons_zero, List.append_assoc, List.singleton_append]

/-! ### Loops -/

/-- A loop over `count` numbers from `least` on, the greatest of them first. -/
def down? (step : σ → ℕ → Option σ) (least : ℕ) : (count : ℕ) → σ → Option σ
  | 0, state => some state
  | count + 1, state => (step state (least + count)).bind (down? step least count)

theorem down?_succ {step : σ → ℕ → Option σ} {least count : ℕ} {state next : σ}
    (h : step state (least + count) = some next) :
    down? step least (count + 1) state = down? step least count next := by
  rw [down?, h, Option.bind_some]

variable {items : List γ} {f : γ → β}

/-- **A loop goes through** if each of its steps does what a step of another loop does. -/
theorem foldlM_map_eq_some (view : σ → τ) {step : τ → β → Option τ} {next : σ → γ → σ}
    (h : ∀ state, ∀ item ∈ items, step (view state) (f item) = some (view (next state item)))
    (state : σ) :
    (items.map f).foldlM step (view state) = some (view (items.foldl next state)) := by
  induction items generalizing state with
  | nil => rfl
  | cons item rest ih =>
      obtain ⟨hitem, hrest⟩ := List.forall_mem_cons.mp fun x hx => (h · x hx)
      rw [List.map_cons, List.foldlM_cons, hitem]
      exact ih (fun s x hx => hrest x hx s) _

/-- The results of a step that goes through for every item. -/
theorem mapM_map_eq_some {step : β → Option τ} (result : γ → τ)
    (h : ∀ item ∈ items, step (f item) = some (result item)) :
    (items.map f).mapM step = some (items.map result) := by
  induction items with
  | nil => rfl
  | cons item rest ih =>
      obtain ⟨hitem, hrest⟩ := List.forall_mem_cons.mp h
      rw [List.map_cons, List.mapM_cons, hitem, ih hrest]
      rfl

/-- A loop over numbered items goes through if each step leads from one state to the next. -/
theorem foldlM_zipIdx_eq_some {items : List β} (view : ℕ → τ) {step : τ → β × ℕ → Option τ}
    (h : ∀ i (hi : i < items.length), step (view i) (items[i], i) = some (view (i + 1))) :
    items.zipIdx.foldlM step (view 0) = some (view items.length) := by
  have hfrom (rest : List β) (k : ℕ) (hrest : items.drop k = rest) :
      (rest.zipIdx k).foldlM step (view k) = some (view (k + rest.length)) := by
    induction rest generalizing k with
    | nil => rfl
    | cons item rest ih =>
        have hk : k < items.length := by
          rcases Nat.lt_or_ge k items.length with hlt | hge
          · exact hlt
          · rw [List.drop_of_length_le hge] at hrest
            cases hrest
        rw [List.drop_eq_getElem_cons hk] at hrest
        obtain ⟨hitem, hnext⟩ := List.cons.inj hrest
        rw [← hitem, List.zipIdx_cons, List.foldlM_cons, h k hk, Option.bind_eq_bind,
          Option.bind_some, ih (k + 1) hnext, List.length_cons, Nat.add_right_comm, Nat.add_assoc]
  simpa using hfrom items 0 rfl

end Tables

end Baggage.Checked
