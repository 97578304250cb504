import Baggage.Toml.Value

/-!
# Baggage.Toml.Document

A TOML **document under construction**. Tables come about in three ways, which differ in what may
still be added to them: a table is *declared* by its header, *implied* by the header of a table
inside it, or *dotted*, made on the way to a dotted key. A header may declare an implied table
once; a dotted key may pass through implied and dotted tables but ends only in a dotted one, or in
the table that it stands in. Inline tables and arrays are values, to which nothing can be added.

`Fields.declare`, `Fields.declareItem` and `Fields.assign` are what a header, a header in double
brackets and a line with a value do to a document; each gives nothing where TOML forbids it.
-/

namespace Baggage.Toml

/-- How a table came about. -/
inductive TableKind where
  /-- By its header, or as the document itself. -/
  | declared
  /-- By the header of a table inside it. -/
  | implied
  /-- On the way to a dotted key. -/
  | dotted
  deriving DecidableEq, Repr

/-- What a name stands for while the document is built. -/
inductive Node where
  /-- A value, to which nothing can be added. -/
  | value (v : Toml)
  /-- A table. -/
  | table (kind : TableKind) (fields : List (String × Node))
  /-- An array of tables; the last one is in front. -/
  | tables (items : List (List (String × Node)))

/-- The fields of a table under construction. -/
abbrev Fields := List (String × Node)

namespace Fields

/-- What a name stands for. -/
def find? (fields : Fields) (name : String) : Option Node :=
  match fields with
  | [] => none
  | (key, node) :: rest => if key == name then some node else find? rest name

/-- The fields with a name standing for something else, or for something at all. -/
def put (fields : Fields) (name : String) (node : Node) : Fields :=
  match fields with
  | [] => [(name, node)]
  | (key, old) :: rest =>
    if key == name then (key, node) :: rest else (key, old) :: put rest name node

/-- Changes the table at the end of a path of headers, the last one where the path meets an array
of tables. Missing tables are implied by it. -/
def within (change : Fields → Option Fields) : (path : List String) → Fields → Option Fields
  | [], fields => change fields
  | name :: path, fields =>
    match fields.find? name with
    | none => do
      return fields.put name (.table .implied (← within change path []))
    | some (.table kind inner) => do
      return fields.put name (.table kind (← within change path inner))
    | some (.tables (last :: before)) => do
      return fields.put name (.tables ((← within change path last) :: before))
    | some (.tables []) => none
    | some (.value _) => none

/-- Declares a table by its name. -/
def declareName (name : String) (fields : Fields) : Option Fields :=
  match fields.find? name with
  | none => some (fields.put name (.table .declared []))
  | some (.table .implied inner) => some (fields.put name (.table .declared inner))
  | some _ => none

/-- Adds a table to an array of tables by its name. -/
def declareItemName (name : String) (fields : Fields) : Option Fields :=
  match fields.find? name with
  | none => some (fields.put name (.tables [[]]))
  | some (.tables items) => some (fields.put name (.tables ([] :: items)))
  | some _ => none

/-- Declares the table that a header names. -/
def declare (parents : List String) (name : String) : Fields → Option Fields :=
  within (declareName name) parents

/-- Begins the next table of the array that a header in double brackets names. -/
def declareItem (parents : List String) (name : String) : Fields → Option Fields :=
  within (declareItemName name) parents

/-- Gives a value to a name that has none yet. -/
def assignName (name : String) (v : Toml) (fields : Fields) : Option Fields :=
  match fields.find? name with
  | none => some (fields.put name (.value v))
  | some _ => none

/-- Gives a value to a dotted key, whose last part is `name`; `inDotted` tells whether the table at
hand is one that the key may end in. -/
def assignDotted (name : String) (v : Toml) (inDotted : Bool) :
    (path : List String) → Fields → Option Fields
  | [], fields => if inDotted then assignName name v fields else none
  | key :: path, fields =>
    match fields.find? key with
    | none => do
      return fields.put key (.table .dotted (← assignDotted name v true path []))
    | some (.table .declared _) => none
    | some (.table kind inner) => do
      return fields.put key
        (.table kind (← assignDotted name v (kind == .dotted) path inner))
    | some (.tables (last :: before)) => do
      return fields.put key (.tables ((← assignDotted name v false path last) :: before))
    | some (.tables []) => none
    | some (.value _) => none

/-- Gives a value to a key within a table. -/
def assignKey (parents : List String) (name : String) (v : Toml) (fields : Fields) :
    Option Fields :=
  assignDotted name v true parents fields

/-- Gives a value to a key within the table of a path of headers. -/
def assign (table parents : List String) (name : String) (v : Toml) : Fields → Option Fields :=
  within (assignKey parents name v) table

end Fields

mutual

/-- The value that a finished node stands for. -/
def Node.finish : Node → Toml
  | .value v => v
  | .table _ fields => .table (finishFields fields)
  | .tables items => .array (finishItems items).reverse

/-- The values of a list of fields. -/
def finishFields : List (String × Node) → List (String × Toml)
  | [] => []
  | (name, node) :: rest => (name, node.finish) :: finishFields rest

/-- The values of a list of tables. -/
def finishItems : List (List (String × Node)) → List Toml
  | [] => []
  | fields :: rest => .table (finishFields fields) :: finishItems rest

end

end Baggage.Toml
