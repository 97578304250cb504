import Baggage.Console.Arguments
import Baggage.Json.Sorted
import Baggage.Log.Line
import Baggage.Report.Json
import Baggage.Report.Text
import Baggage.Selection.Request
import Baggage.Service.Simplex
import Baggage.Settings.Loading

/-!
# Baggage.Console.Run

**Running a command**: from its arguments, the files it may read and the variables around it to
its exit code, its output and its log. A command that fails reports why in its last event; what it
had put out by then remains.
-/

namespace Baggage

namespace Console

/-- Why a command fails. -/
inductive Failure where
  /-- The file cannot be read. -/
  | unreadable (error : FileError)
  /-- The file is not JSON. -/
  | malformed (error : Json.ReadError)
  /-- The file describes no linear program. -/
  | noProblem (fault : Service.RequestFault)
  /-- The linear program was not solved. -/
  | unsolved (error : LinearProgram.SolveError Float)
  /-- The file describes no selection. -/
  | noSelection (fault : Selection.RequestFault)
  /-- The name of the strategy is unknown. -/
  | strategy (name : String)
  /-- Neither the file nor a class sets a budget. -/
  | noBudget
  /-- The pieces or the budget are not acceptable. -/
  | pieces (fault : Selection.Fault Float)
  /-- No choice was made. -/
  | unselected (error : Selection.SelectionError Float)
  /-- The class is unknown, or the weight has no price. -/
  | fare (fault : Fare.Fault)
  /-- The chosen weight has no price. -/
  | unpriced (fault : Fare.Fault)

namespace Failure

/-- What failed. -/
def context : Failure → String
  | unreadable _ => "Error reading file"
  | malformed _ => "Invalid JSON"
  | unsolved _ => "Solve error"
  | unselected _ => "Selection error"
  | unpriced _ => "Pricing error"
  | _ => "Input error"

/-- Why it failed. -/
def message : Failure → String
  | unreadable error => error.message
  | malformed error => error.message
  | noProblem fault => fault.message
  | unsolved error => error.message
  | noSelection fault => fault.message
  | strategy name => "unknown strategy '" ++ name ++ "', expected relaxation or exact"
  | noBudget => "a constraint is required in the file when --class is not given"
  | pieces fault => fault.message
  | unselected error => error.message
  | fare fault => fault.message
  | unpriced fault => fault.message

/-- What is put out before the failure is reported. -/
def output : Failure → String
  | unsolved _ => Report.noSolution
  | _ => ""

end Failure

/-! ### Commands -/

/-- What a command puts out, or why it fails. -/
abbrev Task := Logged Float (Except Failure String)

/-- The JSON value in a file. -/
def readJson (files : Files) (path : String) : Logged Float (Except Failure Json) :=
  match files path with
  | .error e => .quiet (.error (.unreadable e))
  | .ok text =>
    ⟨(Json.parse text).mapError .malformed, [.fileRead path text.utf8ByteSize]⟩

/-- A JSON value as it is put out. -/
def jsonOutput (value : Json) : String := value.pretty ++ "\n"

/-- A solution in a format. -/
def solutionOutput (format : Format) (analysis : Bool) (s : LinearProgram.Solution Float) :
    String :=
  match format with
  | .json => jsonOutput s.toFullJson
  | .text => Report.solution s analysis

/-- Solves the linear program that a JSON value describes. -/
def solveValue (solver : LinearProgram.Solver Float) (value : Json) :
    Logged Float (Except Failure (LinearProgram.Solution Float)) :=
  match Service.readProblem value with
  | .error fault => .quiet (.error (.noProblem fault))
  | .ok p => (solver.solve p).map fun result => result.mapError .unsolved

/-- The class with a name in any case. -/
def readClass (name : String) : Except Failure Fare.TravelClass :=
  (Fare.readClass name.toUpper).mapError .fare

/-- The strategy with a name in any case. -/
def readStrategy (name : String) : Except Failure Selection.Strategy :=
  match Selection.Strategy.ofKeyword? name.toLower with
  | some strategy => .ok strategy
  | none => .error (.strategy name.toLower)

/-- The budget that the request brings, otherwise that of the class. -/
def budgetOf (fares : Fare.Table Float) (request : Selection.Request)
    (travelClass : Option Fare.TravelClass) : Except Failure (Selection.Budget Float) :=
  match request.budget <|> travelClass.map fares.budget with
  | some budget => .ok budget
  | none => .error .noBudget

/-- The selector for the selection that a JSON value describes, and the class. -/
def selectorOf (s : Settings Float) (travelClass strategy : Option String) (value : Json) :
    Except Failure (Selection.Selector Float × Option Fare.TravelClass) := do
  let request ← (Selection.Request.ofJson value).mapError .noSelection
  let travelClass ← travelClass.mapM readClass
  let strategy ← match strategy with
    | some name => readStrategy name
    | none => .ok s.selecting.strategy
  let budget ← budgetOf s.fares request travelClass
  let selector ← (Selection.Selector.create request.weights request.values budget).mapError .pieces
  return ({ selector with
    strategy := strategy
    excessRate := s.selecting.excessRate
    solver := s.solver }, travelClass)

/-- The fare of a choice, if there is a class to price it in. -/
def fareOf (fares : Fare.Table Float) (choice : Selection.Choice Float) :
    Option Fare.TravelClass → Except Failure (Option (Fare.Quote Float))
  | none => .ok none
  | some c => ((fares.quoteSelection choice c).mapError .unpriced).map some

/-- A choice and its fare in a format. -/
def selectionOutput (format : Format) (budget : Selection.Budget Float)
    (choice : Selection.Choice Float) (fare : Option (Fare.Quote Float)) : String :=
  match format with
  | .json =>
    jsonOutput (Json.sorted (.object
      [("selection", choice.toJson), ("fare", (fare.map (·.toJson)).getD .null)]))
  | .text =>
    Report.selection choice budget ++
      match fare with
      | some quote => "\n" ++ Report.fare quote
      | none => ""

/-- Chooses the pieces to keep. -/
def runSelector (s : Settings Float) (format : Format) (selector : Selection.Selector Float)
    (travelClass : Option Fare.TravelClass) : Task :=
  (selector.choose.map fun result => result.mapError .unselected).andThenOk fun choice =>
    .quiet ((fareOf s.fares choice travelClass).map (selectionOutput format selector.budget choice))

/-- A fare in a format. -/
def fareOutput (format : Format) (q : Fare.Quote Float) : String :=
  match format with
  | .json => jsonOutput q.toJson
  | .text => Report.fare q

/-- Prices a weight. -/
def quoteOf (fares : Fare.Table Float) (weight : Float) (travelClass : String) :
    Except Failure (Fare.Quote Float) := do
  let c ← readClass travelClass
  (fares.quote weight c).mapError .fare

/-- Performs a command. -/
def Command.perform (s : Settings Float) (files : Files) : Command → Task
  | .solve file format analysis =>
    (readJson files file).andThenOk fun value =>
      (solveValue s.solver value).map fun result => result.map (solutionOutput format analysis)
  | .select file travelClass strategy format =>
    (readJson files file).andThenOk fun value =>
      match selectorOf s travelClass strategy value with
      | .error failure => .quiet (.error failure)
      | .ok (selector, c) => runSelector s format selector c
  | .fare weight travelClass format =>
    .quiet ((quoteOf s.fares weight travelClass).map (fareOutput format))

/-! ### Runs -/

/-- How a run ends. -/
structure Ending where
  /-- The exit code. -/
  exit : Nat
  /-- The output. -/
  output : String
  /-- The log. -/
  log : List Log.Line

/-- What is around a run. -/
structure Surroundings where
  /-- The files. -/
  files : Files
  /-- The environment variables. -/
  environment : String → Option String

/-- The settings that a call asks for. -/
def Surroundings.settings (around : Surroundings) (config : Option String) :
    Except Settings.LoadError (Settings Float) :=
  Settings.load around.files config (around.environment "PORT")

/-- A task that reports its failure. -/
def report (task : Task) : Logged Float (Except Failure String) :=
  match task.result with
  | .ok _ => task
  | .error failure => task.followedBy (.failed failure.context failure.message)

/-- The ending of a task with a log. -/
def endingOf (s : Settings.Logging) (asked : Option String) (task : Task) : Ending :=
  let log := Log.lines s asked task.events
  match task.result with
  | .ok output => ⟨0, output, log⟩
  | .error failure => ⟨1, failure.output, log⟩

/-- The ending of a run that comes to no settings. -/
def noSettings (context : String) (error : Settings.LoadError) : Ending :=
  ⟨1, "", [.text (context ++ ": " ++ error.message)]⟩

/-- The ending of a run with arguments that are refused, or that ask for help. -/
def refused : Refusal → Ending
  | .help => ⟨0, usage, []⟩
  | refusal => ⟨2, "", [.text ("error: " ++ refusal.message)]⟩

/-- A call with its settings. -/
def Call.perform (call : Call) (s : Settings Float) (files : Files) : Task :=
  (report (call.command.perform s files)).precededBy (.configured call.config)

/-- Runs the program. -/
def run (around : Surroundings) (arguments : List String) : Ending :=
  match Call.ofArguments arguments with
  | .error refusal => refused refusal
  | .ok call =>
    match around.settings call.config with
    | .error e => noSettings "Config error" e
    | .ok s =>
      endingOf s.logging (around.environment "RUST_LOG") (call.perform s around.files)

/-- Makes the service ready: its settings, or how the attempt ends. -/
def readyService (around : Surroundings) (arguments : List String) :
    Except Ending (Settings Float) :=
  match serviceConfig? arguments with
  | .error refusal => .error (refused refusal)
  | .ok config => (around.settings config).mapError (noSettings "Failed to load config")

end Console

end Baggage
