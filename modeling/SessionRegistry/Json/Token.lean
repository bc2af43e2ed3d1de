import SessionRegistry.Json.Basic
import SessionRegistry.Json.Text

/-!
# JSON tokens in a text

A text is cut into tokens with spaces, tabs and line ends between them. Whether the tokens make up
a value is not decided here.

* `length_lt_of_readQuoted`, `length_lt_of_next`: reading a token leaves a shorter text.
-/

namespace SessionRegistry.Json

/-- The characters that may stand between tokens. -/
def isSpace (c : Char) : Bool :=
  c == ' ' || c == '\n' || c == '\t' || c == '\r'

/-- A nonempty run of digits at the start of a text, and the rest. -/
def readRun (cs : List Char) : Option (List Char × List Char) :=
  match cs.takeWhile Char.isDigit with
  | [] => none
  | digits => some (digits, cs.dropWhile Char.isDigit)

/-- The fraction of a number, if one follows, and the rest. A point needs digits after it. -/
def readFraction : List Char → Option (Bool × List Char)
  | '.' :: rest => (readRun rest).map fun (_, rest) => (true, rest)
  | rest => some (false, rest)

/-- The exponent of a number, if one follows, and the rest. -/
def readExponent : List Char → Option (Bool × List Char)
  | c :: rest =>
    if c = 'e' ∨ c = 'E' then
      let digits :=
        match rest with
        | '+' :: r => r
        | '-' :: r => r
        | r => r
      (readRun digits).map fun (_, rest) => (true, rest)
    else some (false, c :: rest)
  | [] => some (false, [])

/-- The whole part of a number and the rest: a lone zero or digits that do not start with zero. -/
def readWhole : List Char → Option (Nat × List Char)
  | '0' :: rest => some (0, rest)
  | cs => (readRun cs).map fun (digits, rest) =>
    (digits.foldl (fun n c => 10 * n + (c.toNat - 48)) 0, rest)

/-- A number at the start of a text, and the rest. -/
def readNumber : List Char → Option (Token × List Char)
  | '-' :: cs => do
    let (_, cs) ← readWhole cs
    let (_, cs) ← readFraction cs
    let (_, cs) ← readExponent cs
    return (.number, cs)
  | cs => do
    let (n, cs) ← readWhole cs
    let (fraction, cs) ← readFraction cs
    let (exponent, cs) ← readExponent cs
    return (if fraction || exponent then .number else .nat n, cs)

/-- The token at the start of a text, and the rest. -/
def next : List Char → Option (Token × List Char)
  | '[' :: rest => some (.arrayStart, rest)
  | ']' :: rest => some (.arrayEnd, rest)
  | '\x7b' :: rest => some (.objectStart, rest)
  | '\x7d' :: rest => some (.objectEnd, rest)
  | ':' :: rest => some (.colon, rest)
  | ',' :: rest => some (.comma, rest)
  | '"' :: rest => (readQuoted rest).map fun (points, rest) =>
    (.text ((joinHalves points).map String.ofList), rest)
  | 't' :: 'r' :: 'u' :: 'e' :: rest => some (.bool true, rest)
  | 'f' :: 'a' :: 'l' :: 's' :: 'e' :: rest => some (.bool false, rest)
  | 'n' :: 'u' :: 'l' :: 'l' :: rest => some (.null, rest)
  | cs => readNumber cs

/-- Reading a quoted text leaves a shorter text. -/
theorem length_lt_of_readQuoted {cs : List Char} {points : List Nat} {rest : List Char}
    (h : readQuoted cs = some (points, rest)) : rest.length < cs.length := by
  fun_induction readQuoted cs generalizing points rest with
  | case1 => simp at h
  | case2 => simp_all
  | case3 a b c d tail ih =>
    simp only [Option.bind_eq_bind, Option.bind_eq_some_iff] at h
    obtain ⟨_, _, _, _, _, _, _, _, ⟨ps, r⟩, hr, he⟩ := h
    have := ih hr
    simp_all
    omega
  | case4 c tail _ ih =>
    simp only [Option.bind_eq_bind, Option.bind_eq_some_iff] at h
    obtain ⟨_, _, ⟨ps, r⟩, hr, he⟩ := h
    have := ih hr
    simp_all
    omega
  | case5 => simp_all
  | case6 c tail _ _ _ _ ih =>
    simp only [Option.bind_eq_bind, Option.bind_eq_some_iff] at h
    obtain ⟨⟨ps, r⟩, hr, he⟩ := h
    have := ih hr
    simp_all
    omega

/-- Reading a run of digits leaves a shorter text. -/
theorem length_lt_of_readRun {cs digits rest : List Char}
    (h : readRun cs = some (digits, rest)) : rest.length < cs.length := by
  have total := congrArg List.length (List.takeWhile_append_dropWhile (p := Char.isDigit) (l := cs))
  rw [List.length_append] at total
  unfold readRun at h
  split at h
  · simp at h
  · next hne =>
    simp only [Option.some.injEq, Prod.mk.injEq] at h
    rw [← h.2]
    have : 0 < (cs.takeWhile Char.isDigit).length := List.length_pos_iff.2 hne
    omega

/-- Reading a fraction leaves no longer text. -/
theorem length_le_of_readFraction {cs : List Char} {found : Bool} {rest : List Char}
    (h : readFraction cs = some (found, rest)) : rest.length ≤ cs.length := by
  unfold readFraction at h
  split at h
  · obtain ⟨⟨d, r⟩, hr, he⟩ := Option.map_eq_some_iff.1 h
    have := length_lt_of_readRun hr
    simp_all
    omega
  · simp_all

/-- Reading an exponent leaves no longer text. -/
theorem length_le_of_readExponent {cs : List Char} {found : Bool} {rest : List Char}
    (h : readExponent cs = some (found, rest)) : rest.length ≤ cs.length := by
  unfold readExponent at h
  split at h
  · next c tail =>
    split at h
    · obtain ⟨⟨d, r⟩, hr, he⟩ := Option.map_eq_some_iff.1 h
      have short := length_lt_of_readRun hr
      simp only [Prod.mk.injEq] at he
      rw [← he.2]
      split at short <;> simp only [List.length_cons] at * <;> omega
    · simp_all
  · simp_all

/-- Reading the whole part of a number leaves a shorter text. -/
theorem length_lt_of_readWhole {cs : List Char} {n : Nat} {rest : List Char}
    (h : readWhole cs = some (n, rest)) : rest.length < cs.length := by
  unfold readWhole at h
  split at h
  · simp_all
  · obtain ⟨⟨d, r⟩, hr, he⟩ := Option.map_eq_some_iff.1 h
    have := length_lt_of_readRun hr
    simp_all

/-- Reading a number leaves a shorter text. -/
theorem length_lt_of_readNumber {cs : List Char} {t : Token} {rest : List Char}
    (h : readNumber cs = some (t, rest)) : rest.length < cs.length := by
  unfold readNumber at h
  split at h <;>
  · simp only [Option.bind_eq_bind, Option.bind_eq_some_iff] at h
    obtain ⟨⟨_, r1⟩, h1, ⟨_, r2⟩, h2, ⟨_, r3⟩, h3, h4⟩ := h
    have s1 := length_lt_of_readWhole h1
    have s2 := length_le_of_readFraction h2
    have s3 := length_le_of_readExponent h3
    simp only [Option.pure_def, Option.some.injEq, Prod.mk.injEq] at h4
    obtain ⟨-, rfl⟩ := h4
    simp only [List.length_cons] at *
    omega

/-- Reading a token leaves a shorter text. -/
theorem length_lt_of_next {cs : List Char} {t : Token} {rest : List Char}
    (h : next cs = some (t, rest)) : rest.length < cs.length := by
  unfold next at h
  split at h
  case h_7 tail =>
    obtain ⟨⟨ps, r⟩, hr, he⟩ := Option.map_eq_some_iff.1 h
    have := length_lt_of_readQuoted hr
    simp only [Prod.mk.injEq] at he
    rw [← he.2, List.length_cons]
    omega
  case h_11 => exact length_lt_of_readNumber h
  all_goals
    simp only [Option.some.injEq, Prod.mk.injEq] at h
    rw [← h.2]
    simp only [List.length_cons]
    omega

/-- The tokens of a text, where it consists of tokens with spaces between them. -/
def tokenize (cs : List Char) : Option (List Token) :=
  match _hs : cs.dropWhile isSpace with
  | [] => some []
  | c :: tail =>
    match _hn : next (c :: tail) with
    | none => none
    | some (t, rest) => (tokenize rest).map (t :: ·)
termination_by cs.length
decreasing_by
  have h1 := length_lt_of_next _hn
  have h2 := (List.dropWhile_sublist isSpace (l := cs)).length_le
  rw [_hs] at h2
  omega

end SessionRegistry.Json
