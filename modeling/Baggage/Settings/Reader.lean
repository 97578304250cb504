import Baggage.Settings.Basic
import Baggage.Toml.Reader

/-!
# Baggage.Settings.Reader

**Reading settings** from a TOML document. Every section and almost every setting may be left out
and then has its standard value; only an allowance must be given as a whole. Sections and settings
with other names are passed over.

A section may also be an array, whose items are its settings in order; a date or time counts as a
section without settings. An integer may stand where a number is due, but not the other way round.
-/

namespace Baggage.Settings

/-- Why a text yields no settings. -/
inductive ReadError where
  /-- The text is no TOML document. -/
  | malformed (error : Toml.ReadError)
  /-- A setting has a value of another type, or is missing. -/
  | mistyped (field : String)
  /-- A setting has a value that is not acceptable. -/
  | unacceptable (fault : Fault)
  deriving DecidableEq, Repr

/-- The wording of a read error. -/
def ReadError.message : ReadError → String
  | malformed error => "failed to parse config: " ++ error.message
  | mistyped field => "failed to parse config: invalid or missing value for " ++ field
  | unacceptable fault => fault.message

/-! ### Values of settings -/

/-- The settings of a section, by their names; those that are missing are `none`. -/
def section? (names : List String) : Toml → Option (List (Option Toml))
  | .table fields => some (names.map fun name => Toml.field? name fields)
  | .array items => some (names.mapIdx fun i _ => items[i]?)
  | .moment => some (names.map fun _ => none)
  | _ => none

/-- A string. -/
def string? : Toml → Option String
  | .string s => some s
  | _ => none

/-- A truth value. -/
def bool? : Toml → Option Bool
  | .bool b => some b
  | _ => none

/-- A natural number up to a limit. -/
def count? (greatest : Nat) : Toml → Option Nat
  | .integer n => if 0 ≤ n && n ≤ greatest then some n.toNat else none
  | _ => none

/-- A number of the arithmetic in use. -/
def number? {α : Type} [Arithmetic α] : Toml → Option α
  | .integer n => some (Arithmetic.ofDecimal ⟨n < 0, n.natAbs, 0⟩)
  | .float numeral => Arithmetic.ofNumeral numeral
  | _ => none

/-- A strategy: its keyword, or a table whose only name is the keyword and whose value is empty. -/
def strategy? : Toml → Option Selection.Strategy
  | .string word => Selection.Strategy.ofKeyword? word
  | .table [(word, .table [])] => Selection.Strategy.ofKeyword? word
  | .table [(word, .array [])] => Selection.Strategy.ofKeyword? word
  | _ => none

/-- The value of a setting that may be left out. -/
def orStandard {β : Type} (field : String) (read : Toml → Option β) (standard : β) :
    Option Toml → Except ReadError β
  | none => .ok standard
  | some value =>
    match read value with
    | some b => .ok b
    | none => .error (.mistyped field)

/-- The value of a setting that must be given. -/
def required {β : Type} (field : String) (read : Toml → Option β) :
    Option Toml → Except ReadError β
  | none => .error (.mistyped field)
  | some value =>
    match read value with
    | some b => .ok b
    | none => .error (.mistyped field)

/-! ### Sections -/

/-- How events are logged. -/
def readLogging (standard : Logging) (value : Toml) : Except ReadError Logging :=
  match section? ["level", "format"] value with
  | some [level, format] => do
    return { level := ← orStandard "logging.level" string? standard.level level
             format := ← orStandard "logging.format" string? standard.format format }
  | _ => .error (.mistyped "logging")

/-- Where the service listens. -/
def readServer (standard : Server) (value : Toml) : Except ReadError Server :=
  match section? ["host", "port"] value with
  | some [host, port] => do
    return { host := ← orStandard "server.host" string? standard.host host
             port := UInt16.ofNat
               (← orStandard "server.port" (count? 65535) standard.port.toNat port) }
  | _ => .error (.mistyped "server")

variable {α : Type} [Arithmetic α]

/-- The solver of linear programs. -/
def readSolver (standard : LinearProgram.Solver α) (value : Toml) :
    Except ReadError (LinearProgram.Solver α) :=
  match section? ["max_iterations", "tolerance", "phase_one"] value with
  | some [maxIterations, tolerance, phaseOne] => do
    return {
      maxIterations := ← orStandard "solver.max_iterations"
        (fun value => (count? Exact.largestCount value).map some) standard.maxIterations
        maxIterations
      tolerance := ← orStandard "solver.tolerance" number? standard.tolerance tolerance
      phaseOne := ← orStandard "solver.phase_one" bool? standard.phaseOne phaseOne }
  | _ => .error (.mistyped "solver")

/-- How pieces are chosen. -/
def readSelecting (standard : Selecting α) (value : Toml) : Except ReadError (Selecting α) :=
  match section? ["excess_rate_per_kg", "strategy"] value with
  | some [excessRate, strategy] => do
    return {
      excessRate := ← orStandard "selection.excess_rate_per_kg" number? standard.excessRate
        excessRate
      strategy := ← orStandard "selection.strategy" strategy? standard.strategy strategy }
  | _ => .error (.mistyped "selection")

/-- The allowance of a class. -/
def readAllowance (field : String) (value : Toml) : Except ReadError (Fare.Allowance α) :=
  match section? ["standard_limit", "base_price", "excess_charge_per_kg", "max_pieces"] value with
  | some [limit, price, charge, pieces] => do
    return { standardLimit := ← required field number? limit
             basePrice := ← required field number? price
             excessChargePerKg := ← required field number? charge
             maxPieces := ← required field (count? 4294967295) pieces }
  | _ => .error (.mistyped field)

/-- The value of a section that may be left out. -/
def sectionOr {β : Type} (standard : β) (read : β → Toml → Except ReadError β) :
    Option Toml → Except ReadError β
  | none => .ok standard
  | some value => read standard value

/-- The allowance of a class, or its standard one. -/
def readAllowanceOr (c : Fare.TravelClass) (standard : Fare.Table α) :
    Option Toml → Except ReadError (Fare.Allowance α) :=
  sectionOr (standard.get c) fun _ value => readAllowance ("fares." ++ c.name) value

/-- The allowances of the classes. -/
def readFares (standard : Fare.Table α) (value : Toml) : Except ReadError (Fare.Table α) :=
  match section? ["ECONOMY", "BUSINESS", "FIRST"] value with
  | some [economy, business, first] => do
    return { economy := ← readAllowanceOr .economy standard economy
             business := ← readAllowanceOr .business standard business
             first := ← readAllowanceOr .first standard first }
  | _ => .error (.mistyped "fares")

/-- The settings in a document, acceptable or not. -/
def ofFields (fields : List (String × Toml)) : Except ReadError (Settings α) := do
  let standard : Settings α := .standard
  return {
    logging := ← sectionOr standard.logging readLogging (Toml.field? "logging" fields)
    server := ← sectionOr standard.server readServer (Toml.field? "server" fields)
    solver := ← sectionOr standard.solver readSolver (Toml.field? "solver" fields)
    selecting := ← sectionOr standard.selecting readSelecting (Toml.field? "selection" fields)
    fares := ← sectionOr standard.fares readFares (Toml.field? "fares" fields) }

/-- The acceptable settings in a text. -/
def parse (text : String) : Except ReadError (Settings α) :=
  match Toml.parse text with
  | .error e => .error (.malformed e)
  | .ok fields =>
    match ofFields fields with
    | .error e => .error e
    | .ok s =>
      match fault? (s : Settings α) with
      | some fault => .error (.unacceptable fault)
      | none => .ok s

end Baggage.Settings
