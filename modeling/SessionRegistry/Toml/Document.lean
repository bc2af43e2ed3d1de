import SessionRegistry.Toml.Scalar
import SessionRegistry.Toml.Text

/-!
# Reading a document

A document is a sequence of statements, each on a line of its own: an assignment `path = value`, a
header `[path]`, or a header `[[path]]` of one of several tables with the same name. Assignments
belong to the latest header. The document is the table that the statements build.

Values are nested, and keys joined, fewer than eighty times. The functions that read nested forms
take the number of characters as their fuel: each of their steps uses up a character at least.
-/

namespace SessionRegistry.Toml

/-- Values are nested less deep, and paths have fewer keys. -/
def depthLimit : Nat := 80

/-- A text without the blanks at its front. -/
def dropBlanks (cs : List Char) : List Char :=
  cs.dropWhile isBlank

/-- What follows the blanks, comments and line breaks between the items of an array. -/
def afterGap : (inComment : Bool) → List Char → Option (List Char)
  | _, [] => some []
  | true, c :: rest =>
    if c = '\n' then afterGap false rest else if isPlain c then afterGap true rest else none
  | false, c :: rest =>
    if c = '#' then afterGap true rest
    else if isBlank c ∨ c = '\n' then afterGap false rest
    else some (c :: rest)

/-- What follows the end of a line, before which blanks and a comment may stand. -/
def afterLine (cs : List Char) : Option (List Char) :=
  match dropBlanks cs with
  | [] => some []
  | '\n' :: rest => some rest
  | '#' :: rest =>
    match rest.dropWhile isPlain with
    | [] => some []
    | '\n' :: rest => some rest
    | _ => none
  | _ => none

/-- Read keys joined by points, with blanks around each. -/
def readKeys : Nat → List Char → Option (List String × List Char)
  | 0, _ => none
  | fuel + 1, cs => do
    let (key, rest) ← readKey (dropBlanks cs)
    match dropBlanks rest with
    | '.' :: rest =>
      let (keys, rest) ← readKeys fuel rest
      return (String.ofList key :: keys, rest)
    | rest => return ([String.ofList key], rest)

/-- Read a path of keys. -/
def readPath (cs : List Char) : Option (List String × List Char) := do
  let (path, rest) ← readKeys (cs.length + 1) cs
  if path.length < depthLimit then some (path, rest) else none

mutual

/-- Read a value. -/
def readValue : (fuel depth : Nat) → List Char → Option (Toml × List Char)
  | 0, _, _ => none
  | fuel + 1, depth, '[' :: rest =>
    if depth + 1 < depthLimit then do
      let (items, rest) ← readItems fuel (depth + 1) rest
      return (array items, rest)
    else none
  | fuel + 1, depth, '{' :: rest =>
    if depth + 1 < depthLimit then do
      let (fields, rest) ←
        match dropBlanks rest with
        | '}' :: rest => some ([], rest)
        | rest => readFields fuel (depth + 1) [] rest
      return (table .inline fields, rest)
    else none
  | _ + 1, _, '"' :: rest =>
    (readText ('"' :: rest)).map fun (s, rest) => (text (String.ofList s), rest)
  | _ + 1, _, '\'' :: rest =>
    (readText ('\'' :: rest)).map fun (s, rest) => (text (String.ofList s), rest)
  | _ + 1, _, cs => do
    let (word, rest) := splitWord cs
    return (← ofWord? word, rest)

/-- Read the items of an array up to the closing bracket. A comma may follow the last one. -/
def readItems : (fuel depth : Nat) → List Char → Option (List Toml × List Char)
  | 0, _, _ => none
  | fuel + 1, depth, cs => do
    match ← afterGap false cs with
    -- the array is empty or its last item had a comma behind it
    | ']' :: rest => return ([], rest)
    | cs =>
      let (item, rest) ← readValue fuel depth cs
      match ← afterGap false rest with
      | ']' :: rest => return ([item], rest)
      | ',' :: rest =>
        let (items, rest) ← readItems fuel depth rest
        return (item :: items, rest)
      | _ => none

/-- Read the assignments in braces, on top of the given fields. No comma follows the last one. -/
def readFields : (fuel depth : Nat) → Fields → List Char → Option (Fields × List Char)
  | 0, _, _, _ => none
  | fuel + 1, depth, fields, cs => do
    let (path, rest) ← readPath cs
    let '=' :: rest := rest | none
    let (value, rest) ← readValue fuel depth (dropBlanks rest)
    let fields ← assign value path true fields
    match dropBlanks rest with
    | '}' :: rest => return (fields, rest)
    | ',' :: rest => readFields fuel depth fields rest
    | _ => none

end

/-- A statement of a document. -/
inductive Statement where
  | assign (path : List String) (value : Toml)
  /-- The header of a table. -/
  | header (path : List String)
  /-- The header of one of several tables with the same name. -/
  | itemHeader (path : List String)
  deriving Inhabited

/-- Read a statement, up to the end of its line. -/
def readStatement : List Char → Option (Statement × List Char)
  | '[' :: '[' :: cs => do
    let (path, rest) ← readPath cs
    let ']' :: ']' :: rest := rest | none
    return (.itemHeader path, ← afterLine rest)
  | '[' :: cs => do
    let (path, rest) ← readPath cs
    let ']' :: rest := rest | none
    return (.header path, ← afterLine rest)
  | cs => do
    let (path, rest) ← readPath cs
    let '=' :: rest := rest | none
    let (value, rest) ← readValue (rest.length + 1) 0 (dropBlanks rest)
    return (.assign path value, ← afterLine rest)

/-- Read the statements of a document. -/
def readStatements : Nat → List Char → Option (List Statement)
  | 0, _ => none
  | fuel + 1, cs =>
    match dropBlanks cs with
    | [] => some []
    | '\n' :: rest => readStatements fuel rest
    | '#' :: rest => do readStatements fuel (← afterLine ('#' :: rest))
    | cs => do
      let (statement, rest) ← readStatement cs
      return statement :: (← readStatements fuel rest)

/-- A document in the making: its fields, and the path of the latest header. -/
structure Draft where
  fields : Fields := []
  path : List String := []

/-- Add a statement to a document. -/
def Draft.add (draft : Draft) : Statement → Option Draft
  | .assign path value =>
    (changeAt (Toml.assign value path true) draft.path draft.fields).map fun fields =>
      { draft with fields }
  | .header path => do
    let key ← path.getLast?
    return { fields := ← changeAt (openTable key) path.dropLast draft.fields, path }
  | .itemHeader path => do
    let key ← path.getLast?
    return { fields := ← changeAt (openNext key) path.dropLast draft.fields, path }

/-- The text with every line break made a single line feed. -/
def unifyBreaks : List Char → List Char
  | '\r' :: '\n' :: rest => '\n' :: unifyBreaks rest
  | c :: rest => c :: unifyBreaks rest
  | [] => []

/-- The fields of a document. A byte order mark before the document is passed over. -/
def parse? (document : String) : Option Fields := do
  -- a carriage return that is left now stands alone, and nothing below accepts it
  let cs := unifyBreaks document.toList
  let cs := if cs.head? = some '\uFEFF' then cs.drop 1 else cs
  let statements ← readStatements (cs.length + 1) cs
  let draft ← statements.foldlM Draft.add {}
  return draft.fields

end SessionRegistry.Toml
