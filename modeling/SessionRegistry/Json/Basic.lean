import SessionRegistry.Json.Text

/-!
# JSON values

The values that snapshot files and console answers are made of. Numbers are natural numbers: the
registry writes no others. A file may hold other numbers, and texts with half a surrogate pair, in
places that the registry does not look at; such a value is well formed and denotes nothing here.

A `Token` is a piece of JSON text. A value and its tokens determine each other. Printed are the
tokens alone, with no blanks between them.
-/

namespace SessionRegistry

/-- A JSON value. -/
inductive Json where
  | null
  | bool (b : Bool)
  | nat (n : Nat)
  | str (s : String)
  | arr (items : List Json)
  | obj (fields : List (String × Json))
  /-- A well-formed value that is only ever passed over: a number that is no natural number, a text
  with half a surrogate pair, or an object with such a text as a key. -/
  | unread
  deriving Inhabited

namespace Json

/-- A piece of JSON text. -/
inductive Token where
  | arrayStart
  | arrayEnd
  | objectStart
  | objectEnd
  | colon
  | comma
  /-- A quoted text; it is absent where half a surrogate pair stands in it. -/
  | text (s : Option String)
  | nat (n : Nat)
  /-- A number that is no natural number. -/
  | number
  | bool (b : Bool)
  | null
  deriving DecidableEq, Inhabited

mutual

/-- The tokens of a value. -/
def tokens : Json → List Token
  | null => [.null]
  | bool b => [.bool b]
  | nat n => [.nat n]
  | str s => [.text (some s)]
  | arr items => .arrayStart :: itemTokens items ++ [.arrayEnd]
  | obj fields => .objectStart :: fieldTokens fields ++ [.objectEnd]
  | unread => [.number]

/-- The tokens of the items of an array, separated by commas. -/
def itemTokens : List Json → List Token
  | [] => []
  | [item] => item.tokens
  | item :: second :: rest => item.tokens ++ .comma :: itemTokens (second :: rest)

/-- The tokens of the fields of an object, separated by commas. -/
def fieldTokens : List (String × Json) → List Token
  | [] => []
  | [(key, value)] => .text (some key) :: .colon :: value.tokens
  | (key, value) :: second :: rest =>
    .text (some key) :: .colon :: value.tokens ++ .comma :: fieldTokens (second :: rest)

end

/-! ## Printing -/

/-- The characters of a token. A text with half a surrogate pair is printed as such a half alone,
a number that is no natural number as minus one. -/
def Token.chars : Token → List Char
  | .arrayStart => ['[']
  | .arrayEnd => [']']
  | .objectStart => ['\x7b']
  | .objectEnd => ['\x7d']
  | .colon => [':']
  | .comma => [',']
  | .text (some s) => quote s.toList
  | .text none => "\"\\ud800\"".toList
  | .nat n => Nat.toDigits 10 n
  | .number => ['-', '1']
  | .bool true => ['t', 'r', 'u', 'e']
  | .bool false => ['f', 'a', 'l', 's', 'e']
  | .null => ['n', 'u', 'l', 'l']

/-- The compact text of a value. -/
def render (j : Json) : String :=
  String.ofList (j.tokens.flatMap Token.chars)

end Json

end SessionRegistry
