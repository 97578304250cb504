import Baggage.Selection.Strategy

/-!
# Baggage.Event

The **events** that the library reports while it works, in the order in which they happen. A
computation that reports events is a `Logged` value: its result beside the list of its events.
How an event is worded, and whether anybody sees it, is decided elsewhere (`Baggage.Log`).
-/

namespace Baggage

/-- Something that happened, with the numbers that describe it. -/
inductive Event (α : Type) where
  /-- A linear program of this size is about to be solved within this many pivots. -/
  | solving (variableCount rows artificials budget : Nat)
  /-- The pivot that is made after `iteration` others; rows count from one. -/
  | pivot (iteration row column : Nat)
  /-- The search for a feasible point ended with the artificial columns adding up to this. -/
  | artificialsPositive (infeasibility : α)
  /-- The objective has no bound in the direction of a column. -/
  | unbounded (column iterations : Nat)
  /-- The pivots allowed were used up. -/
  | exhausted (iterations : Nat)
  /-- An optimum was found. -/
  | optimum (iterations : Nat) (objective : α)
  /-- The pieces to keep were chosen. -/
  | selected (strategy : Selection.Strategy) (pieces : Nat) (weight excessCharge : α)
  /-- A client's linear program could not be solved, for the reason worded here. -/
  | requestFailed (error : String)
  /-- A request to the service was answered. -/
  | served (method path : String) (status : Nat)
  /-- The configuration was read, from a file or from nowhere. -/
  | configured (path : Option String)
  /-- A request file was read. -/
  | fileRead (path : String) (bytes : Nat)
  /-- The command failed. -/
  | failed (context error : String)

/-- A result together with the events on the way to it. -/
structure Logged (α β : Type) where
  /-- The result. -/
  result : β
  /-- The events, first to last. -/
  events : List (Event α)

namespace Logged

variable {α β γ : Type}

/-- A result that was reached without events. -/
def quiet (result : β) : Logged α β := ⟨result, []⟩

/-- A further function of the result. -/
def map (f : β → γ) (x : Logged α β) : Logged α γ := ⟨f x.result, x.events⟩

/-- A further computation from the result; its events come after. -/
def andThen (x : Logged α β) (f : β → Logged α γ) : Logged α γ :=
  ⟨(f x.result).result, x.events ++ (f x.result).events⟩

/-- A further computation from a success; a failure stays what it is. -/
def andThenOk {ε : Type} (x : Logged α (Except ε β)) (f : β → Logged α (Except ε γ)) :
    Logged α (Except ε γ) :=
  x.andThen fun
    | .ok b => f b
    | .error e => .quiet (.error e)

/-- One event after the others. -/
def followedBy (x : Logged α β) (event : Event α) : Logged α β := ⟨x.result, x.events ++ [event]⟩

/-- One event before the others. -/
def precededBy (x : Logged α β) (event : Event α) : Logged α β := ⟨x.result, event :: x.events⟩

@[simp] theorem result_quiet (result : β) : (quiet result : Logged α β).result = result := rfl

@[simp] theorem events_quiet (result : β) : (quiet result : Logged α β).events = [] := rfl

@[simp] theorem result_map (f : β → γ) (x : Logged α β) : (x.map f).result = f x.result := rfl

@[simp] theorem events_map (f : β → γ) (x : Logged α β) : (x.map f).events = x.events := rfl

@[simp] theorem result_andThen (x : Logged α β) (f : β → Logged α γ) :
    (x.andThen f).result = (f x.result).result := rfl

@[simp] theorem events_andThen (x : Logged α β) (f : β → Logged α γ) :
    (x.andThen f).events = x.events ++ (f x.result).events := rfl

@[simp] theorem result_followedBy (x : Logged α β) (event : Event α) :
    (x.followedBy event).result = x.result := rfl

@[simp] theorem events_followedBy (x : Logged α β) (event : Event α) :
    (x.followedBy event).events = x.events ++ [event] := rfl

@[simp] theorem result_precededBy (x : Logged α β) (event : Event α) :
    (x.precededBy event).result = x.result := rfl

@[simp] theorem events_precededBy (x : Logged α β) (event : Event α) :
    (x.precededBy event).events = event :: x.events := rfl

end Logged

end Baggage
