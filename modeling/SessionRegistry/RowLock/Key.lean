import SessionRegistry.Text.Basic

/-!
# Lock keys

A branch records the rows that it has locked in one text, `table:key1,key2;table2:key`. Reading
skips whatever names no row; writing groups the rows by table, in the order in which the tables
first appear.
-/

namespace SessionRegistry

/-- A row of a table, named by its primary key. -/
structure Row where
  table : String
  key : String
  deriving DecidableEq, Repr, Inhabited

namespace LockKey

/-- The parts of a text before and after the first occurrence of a character. -/
def splitOnce? (separator : Char) (cs : List Char) : Option (List Char × List Char) :=
  match cs.dropWhile (· != separator) with
  | [] => none
  | _ :: rest => some (cs.takeWhile (· != separator), rest)

/-- The rows of one segment `table:key1,key2`. A segment without a colon or without a table names
no row, and blank keys are skipped. -/
def segmentRows (segment : List Char) : List Row :=
  match splitOnce? ':' segment with
  | none => []
  | some (table, keys) =>
    let table := Text.trimChars table
    if table = [] then []
    else
      ((keys.splitOn ',').map Text.trimChars).filterMap fun key =>
        if key = [] then none else some ⟨String.ofList table, String.ofList key⟩

/-- The rows that a lock key names, in the order in which it names them. -/
def parse (lockKey : String) : List Row :=
  (lockKey.toList.splitOn ';').flatMap segmentRows

/-- The rows of an optional lock key. -/
def rows (lockKey : Option String) : List Row :=
  (lockKey.map parse).getD []

/-- Put the key of a row behind the keys of its table. A table without a group gets the last one. -/
def addRow (row : Row) : List (String × List String) → List (String × List String)
  | [] => [(row.table, [row.key])]
  | (table, keys) :: rest =>
    if table = row.table then (table, keys ++ [row.key]) :: rest
    else (table, keys) :: addRow row rest

/-- The keys of each table, grouped row by row. -/
def group (rows : List Row) : List (String × List String) :=
  rows.foldl (fun groups row => addRow row groups) []

/-- The lock key of a list of rows. No rows have no lock key. -/
def format (rows : List Row) : Option String :=
  match group rows with
  | [] => none
  | groups =>
    some <| ";".intercalate <| groups.map fun (table, keys) => table ++ ":" ++ ",".intercalate keys

end LockKey

end SessionRegistry
