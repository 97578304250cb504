import Baggage.Decimal.Numeral
import Baggage.Settings.Basic
import Baggage.Text.Blank

/-!
# Baggage.Settings.Port

The **port override**: a text that replaces the port of the settings. Blanks around it do not
count; a plus sign may stand in front of the digits; the number must fit in 16 bits.

`applyPort` changes settings that are in use: it gives back those that stand afterwards, whether it
succeeds or fails, and beside them its result. A text that is no port leaves the settings as they
are. `overridePort` is for settings that are only being made, and gives them up if the step fails.
-/

namespace Baggage.Settings

/-- The port that a text stands for, blanks around it left out. -/
def port? (text : String) : Option UInt16 :=
  (Numeral.natural? (Text.trim text.toList)).bind fun n =>
    if n < 65536 then some (UInt16.ofNat n) else none

/-- The settings with another port. -/
def withPort {α : Type} (s : Settings α) (port : UInt16) : Settings α :=
  { s with server := { s.server with port := port } }

/-- Sets the port to the one that a text stands for; without a text nothing is to be done. -/
def applyPort {α : Type} (s : Settings α) : Option String → Settings α × Except Fault Unit
  | none => (s, .ok ())
  | some text =>
    match port? text with
    | some port => (s.withPort port, .ok ())
    | none => (s, .error ⟨"PORT", "'" ++ text ++ "' is not a valid port"⟩)

/-- The settings with the port that a text stands for; without a text they stay the same. -/
def overridePort {α : Type} (s : Settings α) (text : Option String) : Except Fault (Settings α) :=
  let (after, result) := s.applyPort text
  result.map fun _ => after

@[simp] theorem overridePort_none {α : Type} (s : Settings α) : s.overridePort none = .ok s := rfl

end Baggage.Settings
