import SessionRegistry.Text.Basic
import SessionRegistry.Toml.Basic

/-!
# Numbers, dates and truth values

The values that a document writes without quotation marks or brackets. An integer is written in base
ten, with a sign if it has one, or in another base behind `0x`, `0o` or `0b`, and must fit in 64
bits. Underscores may stand between digits. Dates must exist in the calendar.
-/

namespace SessionRegistry.Toml

open Text (valueIn)

/-- The digits that a character run spells, with underscores between digits alone. -/
def digits? (isDigit : Char → Bool) : List Char → Option (List Char)
  | [] => none
  | [c] => if isDigit c then some [c] else none
  | c :: '_' :: rest => if isDigit c then (digits? isDigit rest).map (c :: ·) else none
  | c :: rest => if isDigit c then (digits? isDigit rest).map (c :: ·) else none

/-- A natural number in base ten. A number of several digits does not begin with a zero. -/
def decimal? (cs : List Char) : Option Nat := do
  let digits ← digits? Char.isDigit cs
  if 1 < digits.length ∧ digits.head? = some '0' then none else some (valueIn 10 digits)

/-- The sign of a number, minus if it is negative, and what follows it. -/
def splitSign : List Char → Bool × List Char
  | '-' :: rest => (true, rest)
  | '+' :: rest => (false, rest)
  | cs => (false, cs)

/-- An integer, whatever its size. -/
def unboundedInteger? : List Char → Option Int
  | '0' :: 'x' :: rest => (digits? (fun c => (Text.hexValue? c).isSome) rest).map (valueIn 16 ·)
  | '0' :: 'o' :: rest => (digits? (fun c => '0' ≤ c && c ≤ '7') rest).map (valueIn 8 ·)
  | '0' :: 'b' :: rest => (digits? (fun c => c == '0' || c == '1') rest).map (valueIn 2 ·)
  | cs =>
    let (isNegative, cs) := splitSign cs
    (decimal? cs).map fun n => if isNegative then -(n : Int) else n

/-- An integer of 64 bits. -/
def integer? (cs : List Char) : Option Int := do
  let n ← unboundedInteger? cs
  if -Int.pow 2 63 ≤ n ∧ n < Int.pow 2 63 then some n else none

/-- The digits behind a point, if there is one. A point is followed by digits. -/
def fraction? : List Char → Option (List Char)
  | [] => some []
  | '.' :: rest => digits? Char.isDigit rest
  | _ => none

/-- The power of ten that an exponent names. Without an exponent it is zero. -/
def exponent? : List Char → Option Int
  | [] => some 0
  | _ :: rest => do
    let (isNegative, cs) := splitSign rest
    let n := valueIn 10 (← digits? Char.isDigit cs)
    return if isNegative then -(n : Int) else n

/-- The numbers from here on are nearer to infinity than to any number in double precision. -/
def beyondDouble : Nat :=
  Nat.pow 2 1024 - Nat.pow 2 970

/-- Whether a number with a given power of ten lies beyond double precision. A number with more than
310 digits before the point does, and one with fewer than 300 does not. -/
def isBeyondDouble (mantissa : Nat) (exponent : Int) : Bool :=
  let places := (Nat.toDigits 10 mantissa).length + exponent
  if mantissa = 0 ∨ places < 300 then false
  else if 310 < places then true
  else beyondDouble * Nat.pow 10 (-exponent).toNat ≤ mantissa * Nat.pow 10 exponent.toNat

/-- Whether a text is a number with a point or an exponent, or is infinite, or is no number by
name. A number that is too large for double precision is none. -/
def isFloat (cs : List Char) : Bool :=
  let (isNegative, cs) := splitSign cs
  if cs = ['i', 'n', 'f'] ∨ cs = ['n', 'a', 'n'] then true
  else
    let isExponentMark (c : Char) : Bool := c == 'e' || c == 'E'
    let front := cs.takeWhile (!isExponentMark ·)
    let back := cs.dropWhile (!isExponentMark ·)
    let whole := front.takeWhile (· != '.')
    let behind := front.dropWhile (· != '.')
    match decimal? whole, fraction? behind, exponent? back with
    | some n, some places, some exponent =>
      let mantissa := n * Nat.pow 10 places.length + valueIn 10 places
      (behind ≠ [] || back ≠ [])
        -- a negative number may be as large as it likes
        && (isNegative || !isBeyondDouble mantissa (exponent - places.length))
    | _, _, _ => false

/-- A number of two digits within bounds. -/
def twoDigits (low high : Nat) (a b : Char) : Bool :=
  a.isDigit && b.isDigit && low ≤ valueIn 10 [a, b] && valueIn 10 [a, b] ≤ high

/-- The number of days of a month. -/
def daysIn (year month : Nat) : Nat :=
  if month = 2 then
    if year % 4 = 0 ∧ (year % 100 ≠ 0 ∨ year % 400 = 0) then 29 else 28
  else if month ∈ [4, 6, 9, 11] then 30
  else 31

/-- What follows a date at the front of a text. -/
def afterDate? : List Char → Option (List Char)
  | y₁ :: y₂ :: y₃ :: y₄ :: '-' :: m₁ :: m₂ :: '-' :: d₁ :: d₂ :: rest =>
    let year := [y₁, y₂, y₃, y₄]
    if year.all Char.isDigit && twoDigits 1 12 m₁ m₂
        && twoDigits 1 (daysIn (valueIn 10 year) (valueIn 10 [m₁, m₂])) d₁ d₂ then
      some rest
    else none
  | _ => none

/-- What follows a time of day at the front of a text. Seconds may have decimal places, and one
second may be added to a minute. -/
def afterTime? : List Char → Option (List Char)
  | h₁ :: h₂ :: ':' :: m₁ :: m₂ :: ':' :: s₁ :: s₂ :: rest =>
    if twoDigits 0 23 h₁ h₂ && twoDigits 0 59 m₁ m₂ && twoDigits 0 60 s₁ s₂ then
      match rest with
      | '.' :: c :: places =>
        if c.isDigit then some (places.dropWhile Char.isDigit) else none
      | _ => some rest
    else none
  | _ => none

/-- Whether a text is the distance of a time zone from universal time, or nothing. -/
def isOffset : List Char → Bool
  | [] | ['Z'] | ['z'] => true
  | [sign, h₁, h₂, ':', m₁, m₂] =>
    (sign == '+' || sign == '-') && twoDigits 0 23 h₁ h₂ && twoDigits 0 59 m₁ m₂
  | _ => false

/-- Whether a text is a date, a time of day, or a date with a time of day. -/
def isDateTime (cs : List Char) : Bool :=
  match afterDate? cs with
  | none => afterTime? cs == some []
  | some [] => true
  | some (mark :: time) =>
    (mark == 'T' || mark == 't' || mark == ' ') && (afterTime? time).any isOffset

/-- The value that a word denotes. -/
def ofWord? (cs : List Char) : Option Toml :=
  if cs = ['t', 'r', 'u', 'e'] then some (boolean true)
  else if cs = ['f', 'a', 'l', 's', 'e'] then some (boolean false)
  else if isDateTime cs then some dateTime
  else if isFloat cs then some float
  else (integer? cs).map integer

/-- Whether a character may stand in a word. -/
def isWordChar (c : Char) : Bool :=
  c.isAlphanum || c == '+' || c == '-' || c == '_' || c == '.' || c == ':'

/-- The word at the front of a text, and what follows it. A date and a time of day are one word also
where a blank stands between them. -/
def splitWord (cs : List Char) : List Char × List Char :=
  let front := cs.takeWhile isWordChar
  match afterDate? front, cs.dropWhile isWordChar with
  | some [], ' ' :: c :: rest =>
    if c.isDigit then
      (front ++ ' ' :: (c :: rest).takeWhile isWordChar, (c :: rest).dropWhile isWordChar)
    else (front, ' ' :: c :: rest)
  | _, back => (front, back)

end SessionRegistry.Toml
