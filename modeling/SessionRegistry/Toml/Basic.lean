/-!
# TOML documents

The values that a TOML document is made of, and how a document grows: an assignment puts a value
under a path of keys, and a header opens a table. No key is given twice, and a table that has been
written down in one way is not extended in another.

* `assign_single`: a new key is put behind the others.
-/

namespace SessionRegistry

namespace Toml

/-- How a table came about. -/
inductive Origin where
  /-- Its own header opened it. -/
  | header
  /-- It stands on the path of another table's header. -/
  | implied
  /-- It stands on the path of a dotted key. -/
  | dotted
  /-- It was written in braces. -/
  | inline
  deriving DecidableEq, Repr, Inhabited

end Toml

/-- A value of a document. Texts, whole numbers and truth values are kept; of other numbers and of
dates no more than their being there. -/
inductive Toml where
  | text (s : String)
  | integer (n : Int)
  /-- A number that is no integer. -/
  | float
  | boolean (b : Bool)
  /-- A date, a time of day or both. -/
  | dateTime
  | array (items : List Toml)
  | table (origin : Toml.Origin) (fields : List (String × Toml))
  /-- Tables that share one name, each opened by a header of its own. -/
  | tables (items : List (List (String × Toml)))
  deriving Inhabited

namespace Toml

/-- The fields of a table, in order. -/
abbrev Fields := List (String × Toml)

/-- Replace the value of a key. -/
def replace (key : String) (value : Toml) (fields : Fields) : Fields :=
  fields.map fun field => if field.1 = key then (key, value) else field

/-- Change the last item of a list, if there is one. -/
def changeLast {α : Type} (change : α → Option α) : List α → Option (List α)
  | [] => none
  | [a] => (change a).map fun a => [a]
  | a :: rest => (changeLast change rest).map (a :: ·)

/-- Put a value under a path of keys. The path may lead through tables that no header has opened yet
and into the latest of several tables with one name, but it must end in a table that may be extended
by such a path. -/
def assign (value : Toml) : List String → (extensible : Bool) → Fields → Option Fields
  | [], _, _ => none
  | [key], extensible, fields =>
    if extensible ∧ (fields.lookup key).isNone then some (fields ++ [(key, value)]) else none
  | key :: rest, _, fields =>
    match fields.lookup key with
    | none => (assign value rest true []).map fun sub => fields ++ [(key, table .dotted sub)]
    | some (table .dotted sub) =>
      (assign value rest true sub).map fun sub => replace key (table .dotted sub) fields
    -- a table that only headers mention can be passed through but not extended
    | some (table .implied sub) =>
      (assign value rest false sub).map fun sub => replace key (table .implied sub) fields
    | some (tables items) =>
      (changeLast (assign value rest false) items).map fun items =>
        replace key (tables items) fields
    | some _ => none

/-- Change the table that a path of keys leads to. Tables on the path come into being as needed. -/
def changeAt (change : Fields → Option Fields) : List String → Fields → Option Fields
  | [], fields => change fields
  | key :: rest, fields =>
    match fields.lookup key with
    | none => (changeAt change rest []).map fun sub => fields ++ [(key, table .implied sub)]
    | some (table .inline _) => none
    | some (table origin sub) =>
      (changeAt change rest sub).map fun sub => replace key (table origin sub) fields
    | some (tables items) =>
      (changeLast (changeAt change rest) items).map fun items =>
        replace key (tables items) fields
    | some _ => none

/-- Open a table under a key. A table that is there already must have been implied. -/
def openTable (key : String) (fields : Fields) : Option Fields :=
  match fields.lookup key with
  | none => some (fields ++ [(key, table .header [])])
  | some (table .implied sub) => some (replace key (table .header sub) fields)
  | some _ => none

/-- Open one more of the tables under a key. -/
def openNext (key : String) (fields : Fields) : Option Fields :=
  match fields.lookup key with
  | none => some (fields ++ [(key, tables [[]])])
  | some (tables items) => some (replace key (tables (items ++ [[]])) fields)
  | some _ => none

/-- A new key is put behind the others. -/
theorem assign_single (value : Toml) (key : String) (fields : Fields)
    (h : fields.lookup key = none) :
    assign value [key] true fields = some (fields ++ [(key, value)]) := by
  simp [assign, h]

end Toml

end SessionRegistry
