import SessionRegistry.Json.Basic

/-!
# Records in JSON

Reading of records with named fields. Fields that are not asked for are passed over, a field that
is asked for stands at most once, and a record may also be written as an array of its fields in
order. A constant is written as its name, or as an object with that name as its only key and null
as its value.
-/

namespace SessionRegistry.Json

/-- The value of a field of an object. There is no answer if the field stands there twice. -/
def field (fields : List (String × Json)) (name : String) : Option (Option Json) :=
  match fields.filter (·.1 == name) with
  | [] => some none
  | [(_, value)] => some (some value)
  | _ => none

/-- The values of the named fields of a record, each absent where the field is missing. -/
def record (names : List String) : Json → Option (List (Option Json))
  | obj fields => names.mapM (field fields)
  | arr items => if items.length = names.length then some (items.map some) else none
  | _ => none

/-- A number of 64 bits. -/
def uint64? : Json → Option UInt64
  | nat n => if h : n < UInt64.size then some (UInt64.ofNatLT n h) else none
  | _ => none

/-- A text. -/
def text? : Json → Option String
  | str s => some s
  | _ => none

/-- An array of values that can all be read. -/
def list? {α : Type} (read : Json → Option α) : Json → Option (List α)
  | arr items => items.mapM read
  | _ => none

/-- A value that may be null. -/
def nullable? {α : Type} (read : Json → Option α) : Json → Option (Option α)
  | null => some none
  | j => (read j).map some

/-- A field that may be null or missing. -/
def optional? {α : Type} (read : Json → Option α) : Option Json → Option (Option α)
  | none => some none
  | some j => nullable? read j

/-- The name of a constant. -/
def constant? : Json → Option String
  | str s => some s
  | obj [(name, null)] => some name
  | _ => none

/-- A value that may be absent, as null or itself. -/
def ofOption {α : Type} (write : α → Json) : Option α → Json
  | none => null
  | some a => write a

end SessionRegistry.Json
