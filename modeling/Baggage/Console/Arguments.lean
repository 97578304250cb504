import Baggage.Decimal.Numeral
import Baggage.Arithmetic

/-!
# Baggage.Console.Arguments

The **arguments** of the programs. An option is named by a word behind two hyphens or, if it has
one, by a letter behind one; letters may stand together. An option either stands alone or takes a
value, which is the rest of the argument (behind an equals sign, if there is one) or else the
next argument. Whatever comes behind a lone `--` is an operand.

No option may be given twice to the same command, and a value that is an argument of its own may
not look like an option.

The arguments are taken in order and the first that cannot be accepted decides, so help is only
given where nothing in front of the request for it is wrong. An operand, and a value that is an
argument of its own, are looked at when the next option or operand comes, or at the end.
-/

namespace Baggage.Console

/-- Why arguments are refused. -/
inductive Refusal where
  /-- There is no such option. -/
  | unknownOption
  /-- An option is given twice. -/
  | repeated
  /-- An option lacks its value. -/
  | missingValue
  /-- An option that stands alone is given a value. -/
  | superfluousValue
  /-- The value of an option is not acceptable. -/
  | badValue
  /-- An option or operand that must be given is not. -/
  | missing
  /-- There are more operands than the command has. -/
  | superfluousOperand
  /-- There is no such command. -/
  | unknownCommand
  /-- Help is asked for instead. -/
  | help
  deriving DecidableEq, Repr

/-- The wording of a refusal. -/
def Refusal.message : Refusal → String
  | unknownOption => "unknown option"
  | repeated => "an option is given twice"
  | missingValue => "an option lacks its value"
  | superfluousValue => "an option takes no value"
  | badValue => "the value of an option is not acceptable"
  | missing => "an argument is missing"
  | superfluousOperand => "too many arguments"
  | unknownCommand => "unknown command"
  | help => "help"

/-- A number that is typed. -/
def weightOf (text : String) : Except Refusal Float :=
  match (Numeral.read? text).bind Arithmetic.ofNumeral with
  | some x => .ok x
  | none => .error .badValue

/-- What a value may be. -/
inductive ValueKind where
  /-- Any text. -/
  | text
  /-- A path, which is never empty. -/
  | path
  /-- A number. -/
  | number
  deriving DecidableEq, Repr

/-- Whether a text is a value of some kind. -/
def ValueKind.accepts : ValueKind → String → Bool
  | text, _ => true
  | path, value => !value.isEmpty
  | number, value => (weightOf value).isOk

/-- An option of a command. -/
structure Switch where
  /-- The word that names it. -/
  word : String
  /-- The letter that names it, if there is one. -/
  letter : Option Char
  /-- The kind of its value, if it takes one. -/
  value : Option ValueKind
  deriving DecidableEq, Repr

/-- The option that asks for help, for every command. -/
def helpSwitch : Switch := ⟨"help", some 'h', none⟩

/-- What may stand behind the name of a command. -/
structure Grammar where
  /-- The options. -/
  switches : List Switch
  /-- The kind of the operand, if there is one. -/
  operand : Option ValueKind

namespace Grammar

/-- The option with a letter. -/
def ofLetter? (g : Grammar) (letter : Char) : Option Switch :=
  g.switches.find? fun s => s.letter == some letter

/-- The option with a word. -/
def ofWord? (g : Grammar) (word : String) : Option Switch :=
  g.switches.find? fun s => s.word == word

end Grammar

/-! ### Reading arguments -/

/-- The name under which the operand is kept. -/
def operandName : String := "FILE"

/-- An option or operand that is not looked at yet. -/
structure Pending where
  /-- Its name. -/
  name : String
  /-- The kind of its value. -/
  kind : ValueKind
  /-- Its value, unless that is still to come. -/
  value : Option String
  deriving DecidableEq, Repr

/-- What was read of the arguments of one command. -/
structure Reading where
  /-- What was given, by its names, with the values. -/
  given : List (String × String)
  /-- The last argument, if it is not looked at yet. -/
  pending : Option Pending
  /-- Whether only operands may follow. -/
  closed : Bool

namespace Reading

/-- Nothing was read. -/
def start : Reading := ⟨[], none, false⟩

/-- The value of what was given under a name. -/
def value? (r : Reading) (name : String) : Option String := r.given.lookup name

/-- One more value. -/
def give (r : Reading) (name : String) (kind : ValueKind) (value : String) :
    Except Refusal Reading :=
  if (r.value? name).isSome then .error .repeated
  else if kind.accepts value then .ok { r with given := r.given ++ [(name, value)] }
  else .error .badValue

/-- Looks at what is pending. -/
def resolve (r : Reading) : Except Refusal Reading :=
  match r.pending with
  | none => .ok r
  | some p =>
    match p.value with
    | none => .error .missingValue
    | some value => { r with pending := none }.give p.name p.kind value

/-- An option that was named without a value. -/
def named (r : Reading) (s : Switch) : Except Refusal Reading := do
  let r ← r.resolve
  if s = helpSwitch then .error .help
  else
    match s.value with
    | none => r.give s.word .text ""
    | some kind => return { r with pending := some ⟨s.word, kind, none⟩ }

/-- An option that was named with its value. -/
def valued (r : Reading) (s : Switch) (kind : ValueKind) (value : List Char) :
    Except Refusal Reading := do
  (← r.resolve).give s.word kind (String.ofList value)

/-- The options that letters stand for. The first one that takes a value takes all that follows. -/
def letters (g : Grammar) (r : Reading) : List Char → Except Refusal Reading
  | [] => .ok r
  | c :: rest =>
    match g.ofLetter? c with
    | none => .error .unknownOption
    | some s =>
      match s.value, rest with
      | none, rest => do (← r.named s).letters g rest
      | some _, [] => r.named s
      | some kind, '=' :: value => r.valued s kind value
      | some kind, value => r.valued s kind value

/-- The option that a word stands for, which may have its value behind an equals sign. -/
def word (g : Grammar) (r : Reading) (text : List Char) : Except Refusal Reading :=
  match g.ofWord? (String.ofList (text.takeWhile fun c => c != '=')) with
  | none => .error .unknownOption
  | some s =>
    match text.dropWhile fun c => c != '=', s.value with
    | [], _ => r.named s
    | _ :: value, some kind => r.valued s kind value
    | _, none => .error .superfluousValue

/-- Whether an argument looks like an option. -/
def isOption (argument : String) : Bool :=
  match argument.toList with
  | '-' :: _ :: _ => true
  | _ => false

/-- Whether an operand was given. -/
def hasOperand (r : Reading) : Bool :=
  (r.value? operandName).isSome || r.pending.any fun p => p.name == operandName

/-- One more operand. -/
def operand (g : Grammar) (r : Reading) (argument : String) : Except Refusal Reading :=
  match g.operand with
  | none => .error .superfluousOperand
  | some kind =>
    if r.hasOperand then .error .superfluousOperand
    else do return { ← r.resolve with pending := some ⟨operandName, kind, some argument⟩ }

/-- The option that waits for its value. -/
def awaiting (r : Reading) : Option Pending := r.pending.filter fun p => p.value.isNone

/-- Reads one more argument. -/
def step (g : Grammar) (r : Reading) (argument : String) : Except Refusal Reading :=
  match r.awaiting with
  | some p =>
    if isOption argument then .error .missingValue
    else .ok { r with pending := some { p with value := some argument } }
  | none =>
    if r.closed then r.operand g argument
    else
      match argument.toList with
      | ['-', '-'] => .ok { r with closed := true }
      | '-' :: '-' :: text => r.word g text
      | '-' :: c :: rest => r.letters g (c :: rest)
      | _ => r.operand g argument

/-- Reads the rest of the arguments. -/
def finish (g : Grammar) (r : Reading) (arguments : List String) : Except Refusal Reading := do
  (← arguments.foldlM (step g) r).resolve

/-- Whether an argument is neither an option nor the value of one. -/
def isPlain (r : Reading) (argument : String) : Bool :=
  r.awaiting.isNone && (r.closed || !isOption argument)

/-- Reads the options in front of the first operand. The operand and all after it are left. -/
def leading (g : Grammar) (r : Reading) : List String → Except Refusal (Reading × List String)
  | [] => .ok (r, [])
  | argument :: rest =>
    if r.isPlain argument then .ok (r, argument :: rest)
    else do (← r.step g argument).leading g rest

/-- The value of what must be given. -/
def required (r : Reading) (name : String) : Except Refusal String :=
  match r.value? name with
  | some value => .ok value
  | none => .error .missing

end Reading

/-! ### Commands -/

/-- How a result is shown. -/
inductive Format where
  /-- As JSON. -/
  | json
  /-- As text. -/
  | text
  deriving DecidableEq, Repr

/-- What the program is asked to do. -/
inductive Command where
  /-- To solve the linear program in a file. -/
  | solve (file : String) (format : Format) (analysis : Bool)
  /-- To choose the pieces to keep, of those in a file. -/
  | select (file : String) (travelClass strategy : Option String) (format : Format)
  /-- To price a weight. -/
  | fare (weight : Float) (travelClass : String) (format : Format)

/-- A call of the program. -/
structure Call where
  /-- The path of the settings. -/
  config : Option String
  /-- The command. -/
  command : Command

/-- The option that names the settings, for every command. -/
def configSwitch : Switch := ⟨"config", none, some .path⟩

/-- The options of every command. -/
def commonSwitches : List Switch := [helpSwitch, configSwitch]

/-- The option that names the form of the result. -/
def formatSwitch : Switch := ⟨"format", some 'f', some .text⟩

/-- The option that names a class. -/
def classSwitch : Switch := ⟨"class", some 'c', some .text⟩

/-- The form that is asked for: `json`, or anything else for text. -/
def formatOf (r : Reading) : Format := if r.value? "format" = some "json" then .json else .text

/-- What may stand behind the name of a command, and how it makes a command. -/
def command? (name : String) : Option (Grammar × (Reading → Except Refusal Command)) :=
  match name with
  | "solve" =>
    some (⟨commonSwitches ++ [formatSwitch, ⟨"analysis", some 'a', none⟩], some .path⟩, fun r => do
      return .solve (← r.required operandName) (formatOf r) (r.value? "analysis").isSome)
  | "select" =>
    some (⟨commonSwitches ++ [formatSwitch, classSwitch, ⟨"strategy", some 's', some .text⟩],
      some .path⟩, fun r => do
      return .select (← r.required operandName) (r.value? "class") (r.value? "strategy")
        (formatOf r))
  | "fare" =>
    some (⟨commonSwitches ++ [formatSwitch, classSwitch, ⟨"weight", some 'w', some .number⟩],
      none⟩, fun r => do
      return .fare (← weightOf (← r.required "weight")) (← r.required "class") (formatOf r))
  | _ => none

/-- How the program is called. -/
def usage : String :=
  "solve FILE [--analysis] [--format json|pretty]\n"
    ++ "select FILE [--class CLASS] [--strategy relaxation|exact] [--format json|pretty]\n"
    ++ "fare --weight KILOGRAMS --class CLASS [--format json|pretty]\n"
    ++ "each with [--config FILE]\n"

/-- The name of the command that gives help. -/
def helpCommand : String := "help"

/-- The answer to a request for help on the subjects behind it: help, if there is none or only one,
which is a command. -/
def helpOn : List String → Refusal
  | [] => .help
  | [name] => if name = helpCommand || (command? name).isSome then .help else .unknownCommand
  | _ => .unknownCommand

/-- The call that arguments stand for. The settings may be named in front of the command and
behind it; the latter counts. What is pending in front of the command is looked at last. -/
def Call.ofArguments (arguments : List String) : Except Refusal Call := do
  let (before, rest) ← Reading.start.leading ⟨commonSwitches, none⟩ arguments
  match rest with
  | [] => .error .missing
  | name :: rest =>
    if before.closed then .error .superfluousOperand
    else if name = helpCommand then .error (helpOn rest)
    else
      match command? name with
      | none => .error .unknownCommand
      | some (grammar, make) =>
        let r ← Reading.start.finish grammar rest
        let command ← make r
        let before ← before.resolve
        return ⟨r.value? configSwitch.word <|> before.value? configSwitch.word, command⟩

/-- The path of the settings that the arguments of the service name. -/
def serviceConfig? (arguments : List String) : Except Refusal (Option String) := do
  let r ← Reading.start.finish ⟨[helpSwitch, ⟨"config", some 'c', some .path⟩], none⟩ arguments
  return r.value? configSwitch.word

end Baggage.Console
