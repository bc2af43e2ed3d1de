import SessionRegistry.Text.Basic

/-!
# Addresses of sockets

The address that the console listens on: a host, in version four or six of the internet protocol,
and the number of a service on it. Reading accepts the usual ways to write a host; writing has one
form for each. A host of version six stands in brackets, with the longest run of at least two zero
groups left out.
-/

namespace SessionRegistry

/-- The host of an address. -/
inductive Host where
  | four (a b c d : UInt8)
  /-- The scope tells interfaces apart; zero is none in particular. -/
  | six (groups : Vector UInt16 8) (scope : UInt32)
  deriving DecidableEq, Repr

/-- The address of a socket. -/
structure Address where
  host : Host
  /-- The number of the service on the host. -/
  service : UInt16
  deriving DecidableEq, Repr

namespace Host

/-- A number at the front of a text, with a limited number of digits, and what follows it. -/
def readNumber (base maxDigits : Nat) (isDigit : Char → Bool) (cs : List Char) :
    Option (Nat × List Char) :=
  let digits := cs.takeWhile isDigit
  if digits = [] ∨ maxDigits < digits.length then none
  else some (Text.valueIn base digits, cs.dropWhile isDigit)

/-- One of the four numbers of a host. It has no needless zeros. -/
def readOctet (cs : List Char) : Option (UInt8 × List Char) := do
  let (n, rest) ← readNumber 10 3 Char.isDigit cs
  if 255 < n then none
  else if cs.head? = some '0' ∧ rest.length + 1 < cs.length then none
  else some (UInt8.ofNat n, rest)

/-- A host of version four at the front of a text. -/
def readFour (cs : List Char) : Option ((UInt8 × UInt8 × UInt8 × UInt8) × List Char) := do
  let (a, '.' :: cs) ← readOctet cs | none
  let (b, '.' :: cs) ← readOctet cs | none
  let (c, '.' :: cs) ← readOctet cs | none
  let (d, cs) ← readOctet cs
  return ((a, b, c, d), cs)

/-- One of the eight groups of a host. -/
def readGroup (cs : List Char) : Option (UInt16 × List Char) := do
  let (n, rest) ← readNumber 16 4 (fun c => (Text.hexValue? c).isSome) cs
  return (UInt16.ofNat n, rest)

/-- Two bytes as a group. -/
def groupOf (high low : UInt8) : UInt16 :=
  UInt16.ofNat (256 * high.toNat + low.toNat)

/-- What follows the colon between two groups. Before the first group there is none. -/
def afterColon : (isFirst : Bool) → List Char → Option (List Char)
  | true, cs => some cs
  | false, ':' :: cs => some cs
  | false, _ => none

/-- As many groups as stand at the front of a text, up to a number. The last two of them may be
written as a host of version four, and it is told whether they are. -/
def readGroups : Nat → (isFirst : Bool) → List Char → List UInt16 × Bool × List Char
  | 0, _, cs => ([], false, cs)
  | slots + 1, isFirst, cs =>
    match afterColon isFirst cs with
    | none => ([], false, cs)
    | some body =>
      -- a host of version four takes the places of two groups
      match if 0 < slots then readFour body else none with
      | some ((a, b, c, d), rest) => ([groupOf a b, groupOf c d], true, rest)
      | none =>
        match readGroup body with
        | none => ([], false, cs)
        | some (group, rest) =>
          let (groups, endsInFour, rest) := readGroups slots false rest
          (group :: groups, endsInFour, rest)

/-- The eight groups of a host at the front of a text. Two colons stand for the zero groups that are
left out, at least one. -/
def readSix (cs : List Char) : Option (List UInt16 × List Char) :=
  let (front, endsInFour, rest) := readGroups 8 true cs
  if front.length = 8 then some (front, rest)
  else if endsInFour then none
  else
    match rest with
    | ':' :: ':' :: rest =>
      -- at least one group is left out, so at most seven are written
      let (back, _, rest) := readGroups (7 - front.length) true rest
      some (front ++ List.replicate (8 - front.length - back.length) 0 ++ back, rest)
    | _ => none

/-- Decimal digits that end a text, or are followed by a certain character; and what follows. -/
def readDecimal (limit : Nat) (cs : List Char) : Option (Nat × List Char) := do
  let (n, rest) ← readNumber 10 cs.length Char.isDigit cs
  if limit < n then none else some (n, rest)

/-- The scope at the front of a text. It may be missing. -/
def readScope : List Char → Option (UInt32 × List Char)
  | '%' :: cs => (readDecimal (UInt32.size - 1) cs).map fun (n, rest) => (UInt32.ofNat n, rest)
  | cs => some (0, cs)

/-- A host at the front of a text, and what follows it. -/
def read : List Char → Option (Host × List Char)
  | '[' :: cs => do
    let (groups, cs) ← readSix cs
    let (scope, ']' :: cs) ← readScope cs | none
    if h : groups.length = 8 then
      return (six ⟨groups.toArray, by simpa using h⟩ scope, cs)
    else none
  | cs => (readFour cs).map fun ((a, b, c, d), cs) => (four a b c d, cs)

/-- The text of a host of version four. -/
def fourText (a b c d : UInt8) : String :=
  s!"{a.toNat}.{b.toNat}.{c.toNat}.{d.toNat}"

/-- A group without needless zeros. -/
def groupText (group : UInt16) : String :=
  String.ofList (Nat.toDigits 16 group.toNat)

/-- Groups separated by colons. -/
def groupsText (groups : List UInt16) : String :=
  ":".intercalate (groups.map groupText)

/-- The number of zero groups from a place on. -/
def zerosFrom (groups : List UInt16) (start : Nat) : Nat :=
  ((groups.drop start).takeWhile (· == 0)).length

/-- Where the longest run of zero groups begins; of two equal ones the first. -/
def longestZeros (groups : List UInt16) : Nat :=
  (List.range groups.length).foldl
    (fun best start => if zerosFrom groups best < zerosFrom groups start then start else best) 0

/-- The text of eight groups. The longest run of zeros is left out if it has two groups or more, and
a host of version four in disguise is shown as one. -/
def sixText (groups : List UInt16) : String :=
  match groups with
  | [0, 0, 0, 0, 0, 0xFFFF, high, low] =>
    "::ffff:" ++ fourText (high >>> 8).toUInt8 high.toUInt8 (low >>> 8).toUInt8 low.toUInt8
  | _ =>
    let start := longestZeros groups
    let count := zerosFrom groups start
    if count < 2 then groupsText groups
    else groupsText (groups.take start) ++ "::" ++ groupsText (groups.drop (start + count))

/-- The text of a host, as an address shows it. -/
def toText : Host → String
  | four a b c d => fourText a b c d
  | six groups scope =>
    let scopeText := if scope = 0 then "" else s!"%{scope.toNat}"
    "[" ++ sixText groups.toList ++ scopeText ++ "]"

end Host

namespace Address

/-- The address that a text denotes. -/
def ofText? (text : String) : Option Address := do
  let (host, ':' :: cs) ← Host.read text.toList | none
  let (service, []) ← Host.readDecimal (UInt16.size - 1) cs | none
  return { host, service := UInt16.ofNat service }

/-- The text of an address. -/
def toText (address : Address) : String :=
  s!"{address.host.toText}:{address.service.toNat}"

end Address

end SessionRegistry
