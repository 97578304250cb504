import Baggage.Files
import Baggage.Settings.Port
import Baggage.Settings.Reader

/-!
# Baggage.Settings.Loading

**Where settings come from**: a file, if one is named, otherwise the standard ones; and then the
port override, in either case.
-/

namespace Baggage.Settings

/-- Why there are no settings. -/
inductive LoadError where
  /-- The file cannot be read. -/
  | unreadable (error : FileError)
  /-- The text of the file yields no settings. -/
  | faulty (error : ReadError)
  /-- The port override is no port. -/
  | override (fault : Fault)
  deriving DecidableEq, Repr

/-- The wording of a load error. -/
def LoadError.message : LoadError → String
  | unreadable error => "failed to read config file: " ++ error.message
  | faulty error => error.message
  | override fault => fault.message

variable {α : Type} [Arithmetic α]

/-- The settings in a file. -/
def ofFile (files : Files) (path : String) : Except LoadError (Settings α) :=
  match files path with
  | .error e => .error (.unreadable e)
  | .ok text => (parse text).mapError .faulty

/-- The settings in a file if one is named, with the port that is asked for. -/
def load (files : Files) (path port : Option String) : Except LoadError (Settings α) := do
  let settings ← match path with
    | some path => ofFile files path
    | none => .ok .standard
  (settings.overridePort port).mapError .override

end Baggage.Settings
