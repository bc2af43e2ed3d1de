import SessionRegistry.Text.Basic

/-!
# Texts of a document

A text stands in quotation marks or in apostrophes. In quotation marks a backslash begins an escape;
in apostrophes every character stands for itself. Three marks enclose a text of several lines: a
line break right after the opening marks is dropped, and in quotation marks a backslash at the end
of a line takes away the blanks and line breaks that follow it.

Reading starts behind the opening marks and gives the text and what follows the closing marks. Line
breaks are single line feeds here.
-/

namespace SessionRegistry.Toml

/-- Whether a character may stand in a document for itself. Of the control characters only the
tabulator may. -/
def isPlain (c : Char) : Bool :=
  c == '\t' || (0x20 ≤ c.toNat && c.toNat != 0x7F)

/-- Whether a character is a blank within a line. -/
def isBlank (c : Char) : Bool :=
  c == ' ' || c == '\t'

/-- How far an escape has been read. -/
inductive Escape where
  /-- The backslash has been read. -/
  | begun
  /-- The digits of a code point are being read. -/
  | digits (missing value : Nat)
  deriving DecidableEq, Repr

namespace Escape

/-- The character that a one-letter escape names. -/
def named? : Char → Option Char
  | 'b' => some '\x08'
  | 't' => some '\t'
  | 'n' => some '\n'
  | 'f' => some '\x0c'
  | 'r' => some '\r'
  | '"' => some '"'
  | '\\' => some '\\'
  | _ => none

/-- Read one more character of an escape. The escape goes on or denotes a character. -/
def next? : Escape → Char → Option (Escape ⊕ Char)
  | begun, c =>
    if c = 'u' then some (.inl (digits 4 0))
    else if c = 'U' then some (.inl (digits 8 0))
    else (named? c).map .inr
  | digits missing value, c => do
    let value := 16 * value + (← Text.hexValue? c)
    if 1 < missing then some (.inl (digits (missing - 1) value))
    else if value.isValidChar then some (.inr (Char.ofNat value))
    else none

end Escape

/-- Put a character before a text that has been read. -/
def push (c : Char) (result : Option (List Char × List Char)) : Option (List Char × List Char) :=
  result.map fun (cs, rest) => (c :: cs, rest)

/-- Read a text in quotation marks, possibly from within an escape. -/
def readQuoted : Option Escape → List Char → Option (List Char × List Char)
  | none, '"' :: rest => some ([], rest)
  | none, '\\' :: rest => readQuoted (some .begun) rest
  | none, c :: rest => if isPlain c then push c (readQuoted none rest) else none
  | some escape, c :: rest =>
    match escape.next? c with
    | some (.inl escape) => readQuoted (some escape) rest
    | some (.inr c) => push c (readQuoted none rest)
    | none => none
  | _, [] => none

/-- Read a text in apostrophes. -/
def readLiteral : List Char → Option (List Char × List Char)
  | '\'' :: rest => some ([], rest)
  | c :: rest => if isPlain c then push c (readLiteral rest) else none
  | [] => none

/-- Where the reading of a text of several lines stands. -/
inductive Place where
  | inside
  /-- In an escape. -/
  | escape (escape : Escape)
  /-- In the blanks between a backslash and the end of its line. -/
  | lineEnd
  /-- In the blanks and line breaks that a backslash takes away. -/
  | fold
  deriving DecidableEq, Repr

/-- Read a text of several lines in quotation marks. Up to two quotation marks may stand before the
closing ones. -/
def readQuotedLines : Place → List Char → Option (List Char × List Char)
  | .escape e, c :: rest =>
    if e = .begun ∧ isBlank c then readQuotedLines .lineEnd rest
    else if e = .begun ∧ c = '\n' then readQuotedLines .fold rest
    else
      match e.next? c with
      | some (.inl e) => readQuotedLines (.escape e) rest
      | some (.inr c) => push c (readQuotedLines .inside rest)
      | none => none
  | .lineEnd, c :: rest =>
    if isBlank c then readQuotedLines .lineEnd rest
    else if c = '\n' then readQuotedLines .fold rest
    else none
  -- of five or four marks the last three close the text, and the others belong to it
  | _, '"' :: '"' :: '"' :: '"' :: '"' :: rest => some (['"', '"'], rest)
  | _, '"' :: '"' :: '"' :: '"' :: rest => some (['"'], rest)
  | _, '"' :: '"' :: '"' :: rest => some ([], rest)
  | _, '\\' :: rest => readQuotedLines (.escape .begun) rest
  | place, c :: rest =>
    if place = .fold ∧ (isBlank c ∨ c = '\n') then readQuotedLines .fold rest
    else if isPlain c ∨ c = '\n' then push c (readQuotedLines .inside rest)
    else none
  | _, [] => none

/-- Read a text of several lines in apostrophes. Up to two apostrophes may stand before the closing
ones. -/
def readLiteralLines : List Char → Option (List Char × List Char)
  | '\'' :: '\'' :: '\'' :: '\'' :: '\'' :: rest => some (['\'', '\''], rest)
  | '\'' :: '\'' :: '\'' :: '\'' :: rest => some (['\''], rest)
  | '\'' :: '\'' :: '\'' :: rest => some ([], rest)
  | c :: rest => if isPlain c ∨ c = '\n' then push c (readLiteralLines rest) else none
  | [] => none

/-- A text without the line break that it begins with, if it does. -/
def dropBreak : List Char → List Char
  | '\n' :: rest => rest
  | cs => cs

/-- Read a text of any form, from its opening marks on. -/
def readText : List Char → Option (List Char × List Char)
  | '"' :: '"' :: '"' :: rest => readQuotedLines .inside (dropBreak rest)
  | '"' :: rest => readQuoted none rest
  | '\'' :: '\'' :: '\'' :: rest => readLiteralLines (dropBreak rest)
  | '\'' :: rest => readLiteral rest
  | _ => none

/-- Whether a character may stand in a key without marks. -/
def isBare (c : Char) : Bool :=
  c.isAlphanum || c == '-' || c == '_'

/-- Read one key. A key in marks stands on one line. -/
def readKey : List Char → Option (List Char × List Char)
  | '"' :: rest => readQuoted none rest
  | '\'' :: rest => readLiteral rest
  | cs =>
    match cs.takeWhile isBare with
    | [] => none
    | key => some (key, cs.dropWhile isBare)

end SessionRegistry.Toml
