import SessionRegistry.Json.Basic
import SessionRegistry.Json.Reader

/-!
# Round trip of JSON

A printed value is read back, whatever it is. Cutting the text into tokens is undone token by token:
every token but a number shows where it ends, and a number is always followed by a character that
does not continue it.

* `next_chars`: the characters of a token are read as that token.
* `tokenize_tokens`: the text of a value is cut into the tokens of that value.
* `parse_render`: a printed value is read back.
-/

namespace SessionRegistry.Json

open Text (hexDigit hexValue? hexValue?_hexDigit)

/-- A text does not start with a character that would continue a number. -/
def StopsNumber (rest : List Char) : Prop :=
  ∀ c ∈ rest.head?, c.isDigit = false ∧ c ≠ '.' ∧ c ≠ 'e' ∧ c ≠ 'E'

@[simp]
theorem stopsNumber_nil : StopsNumber [] := by
  simp [StopsNumber]

/-! ## Numbers -/

/-- A text that starts with the digits of a number starts with the first of them. -/
theorem head?_of_toDigits_append {n : Nat} {rest tail : List Char} {c : Char}
    (h : Nat.toDigits 10 n ++ rest = c :: tail) : (Nat.toDigits 10 n).head? = some c := by
  cases hd : Nat.toDigits 10 n with
  | nil => exact absurd hd Nat.toDigits_ne_nil
  | cons d more =>
    rw [hd, List.cons_append] at h
    rw [List.head?_cons, (List.cons.inj h).1]

/-- Only zero is written with a zero in front. -/
theorem head?_toDigits_ne_zero {n : Nat} (h : n ≠ 0) : (Nat.toDigits 10 n).head? ≠ some '0' := by
  induction n using Nat.strongRecOn with
  | _ n ih =>
    by_cases small : n < 10
    · have digits : ∀ m < 10, m ≠ 0 → [m.digitChar].head? ≠ some '0' := by decide
      rw [Nat.toDigits_of_lt_base small]
      exact digits n small h
    · rw [Nat.toDigits_of_base_le (by decide) (by omega)]
      have rest := ih (n / 10) (by omega) (by omega)
      rw [List.head?_append]
      cases hd : (Nat.toDigits 10 (n / 10)).head? with
      | none => simp at hd
      | some c => simpa [hd] using rest

/-- A run of digits is read up to the first character that is none. -/
theorem readRun_append {digits rest : List Char} (hne : digits ≠ [])
    (hdigits : ∀ c ∈ digits, c.isDigit = true) (hrest : StopsNumber rest) :
    readRun (digits ++ rest) = some (digits, rest) := by
  have stop : rest.takeWhile Char.isDigit = [] ∧ rest.dropWhile Char.isDigit = rest := by
    cases rest with
    | nil => simp
    | cons c tail => simp [(hrest c rfl).1]
  have take : (digits ++ rest).takeWhile Char.isDigit = digits := by
    rw [List.takeWhile_append_of_pos hdigits, stop.1, List.append_nil]
  have drop : (digits ++ rest).dropWhile Char.isDigit = rest := by
    rw [List.dropWhile_append_of_pos hdigits, stop.2]
  rw [readRun, take, drop]
  cases digits with
  | nil => exact absurd rfl hne
  | cons c more => rfl

/-- A number is read back from its digits. -/
theorem readWhole_toDigits (n : Nat) {rest : List Char} (hrest : StopsNumber rest) :
    readWhole (Nat.toDigits 10 n ++ rest) = some (n, rest) := by
  by_cases hn : n = 0
  · subst hn
    simp [readWhole]
  · have run := readRun_append (Nat.toDigits_ne_nil (n := n) (b := 10))
      (fun c hc => Nat.isDigit_of_mem_toDigits (by decide) (by decide) hc) hrest
    unfold readWhole
    split
    · next tail heq =>
      exact absurd (head?_of_toDigits_append heq) (head?_toDigits_ne_zero hn)
    · rw [run, Option.map_some]
      exact congrArg (fun m => some (m, rest)) (Nat.ofDigitChars_ten_toDigits (n := n))

/-- A text that stops a number has no fraction in front. -/
theorem readFraction_of_stops {rest : List Char} (h : StopsNumber rest) :
    readFraction rest = some (false, rest) := by
  unfold readFraction
  split
  · exact absurd rfl (h '.' rfl).2.1
  · rfl

/-- A text that stops a number has no exponent in front. -/
theorem readExponent_of_stops {rest : List Char} (h : StopsNumber rest) :
    readExponent rest = some (false, rest) := by
  cases rest with
  | nil => rfl
  | cons c tail =>
    have := h c rfl
    simp [readExponent, this]

/-- The digits of a number are read as that number. -/
theorem readNumber_toDigits (n : Nat) {rest : List Char} (hrest : StopsNumber rest) :
    readNumber (Nat.toDigits 10 n ++ rest) = some (.nat n, rest) := by
  unfold readNumber
  split
  · next tail heq =>
    -- a minus sign is no digit
    have digit : '-'.isDigit = true := Nat.isDigit_of_mem_toDigits (by decide) (by decide)
      (List.mem_of_mem_head? (head?_of_toDigits_append heq))
    exact absurd digit (by decide)
  · simp [readWhole_toDigits n hrest, readFraction_of_stops hrest, readExponent_of_stops hrest]

/-! ## Quoted texts -/

/-- A character that stands for itself is read as itself. -/
theorem readQuoted_cons {c : Char} (hquote : c ≠ '"') (hslash : c ≠ '\\')
    (hcontrol : ¬ c.toNat < 0x20) (rest : List Char) :
    readQuoted (c :: rest)
      = (readQuoted rest).map fun (points, rest) => (c.toNat :: points, rest) := by
  rw [readQuoted.eq_def]
  split
  · simp_all
  · simp_all
  · simp_all
  · simp_all
  · next heq =>
    obtain ⟨rfl, rfl⟩ := List.cons.inj heq
    rw [if_neg hcontrol]
    cases readQuoted rest <;> rfl

/-- A control character is read back from its number. -/
theorem readQuoted_control {c : Char} (h : c.toNat < 0x20) (rest : List Char) :
    readQuoted (['\\', 'u', '0', '0', hexDigit (c.toNat / 16), hexDigit (c.toNat % 16)] ++ rest)
      = (readQuoted rest).map fun (points, rest) => (c.toNat :: points, rest) := by
  have high := hexValue?_hexDigit (c.toNat / 16) (by omega)
  have low := hexValue?_hexDigit (c.toNat % 16) (by omega)
  have zero : hexValue? '0' = some 0 := by decide
  have value : (0 * 16 + 0) * 256 + c.toNat / 16 * 16 + c.toNat % 16 = c.toNat := by omega
  simp only [List.cons_append, List.nil_append, readQuoted, zero, high, low, value,
    Option.bind_eq_bind, Option.bind_some]
  cases readQuoted rest <;> rfl

/-- A one-letter escape is read as the character that it names. -/
theorem readQuoted_named {letter named : Char} (hu : letter ≠ 'u')
    (h : unescape? letter = some named) (rest : List Char) :
    readQuoted (['\\', letter] ++ rest)
      = (readQuoted rest).map fun (points, rest) => (named.toNat :: points, rest) := by
  rw [List.cons_append, List.cons_append, List.nil_append,
    readQuoted.eq_4 _ _ fun _ _ _ _ _ hletter _ => hu hletter, h]
  cases readQuoted rest <;> rfl

/-- An escaped character is read back. -/
theorem readQuoted_escape (c : Char) (rest : List Char) :
    readQuoted (escape c ++ rest)
      = (readQuoted rest).map fun (points, rest) => (c.toNat :: points, rest) := by
  unfold escape
  split
  · next h => subst h; exact readQuoted_named (by decide) (by decide) rest
  split
  · next h => subst h; exact readQuoted_named (by decide) (by decide) rest
  split
  · next h => subst h; exact readQuoted_named (by decide) (by decide) rest
  split
  · next h => subst h; exact readQuoted_named (by decide) (by decide) rest
  split
  · next h => subst h; exact readQuoted_named (by decide) (by decide) rest
  split
  · next h => subst h; exact readQuoted_named (by decide) (by decide) rest
  split
  · next h => subst h; exact readQuoted_named (by decide) (by decide) rest
  split
  · next h => exact readQuoted_control h rest
  · exact readQuoted_cons ‹_› ‹_› ‹_› rest

/-- The inside of a quoted text is read up to its closing quotation mark. -/
theorem readQuoted_flatMap_escape (cs rest : List Char) :
    readQuoted (cs.flatMap escape ++ '"' :: rest) = some (cs.map Char.toNat, rest) := by
  induction cs with
  | nil => rfl
  | cons c cs ih =>
    rw [List.flatMap_cons, List.append_assoc, readQuoted_escape, ih]
    rfl

/-- No character is half of a surrogate pair. -/
theorem isHalf_toNat (c : Char) : isHighHalf c.toNat = false ∧ isLowHalf c.toNat = false := by
  have valid : c.toNat < 0xD800 ∨ 0xDFFF < c.toNat ∧ c.toNat < 0x110000 := c.valid
  simp only [isHighHalf, isLowHalf, Bool.and_eq_false_iff, decide_eq_false_iff_not]
  omega

/-- The numbers of characters denote these characters. -/
theorem joinHalves_map_toNat (cs : List Char) : joinHalves (cs.map Char.toNat) = some cs := by
  induction cs with
  | nil => rfl
  | cons c cs ih =>
    have half := isHalf_toNat c
    cases cs with
    | nil => simp [joinHalves, half]
    | cons d cs =>
      rw [List.map_cons] at ih
      simp [joinHalves, half, ih]

/-! ## Tokens -/

/-- Whether a token is a number, which shows its end only by what follows. -/
def Token.isNumeric : Token → Bool
  | .nat _ | .number => true
  | _ => false

/-- A number at the start of a text is its first token. -/
theorem next_toDigits (n : Nat) {rest : List Char} (hrest : StopsNumber rest) :
    next (Nat.toDigits 10 n ++ rest) = some (.nat n, rest) := by
  have number := readNumber_toDigits n hrest
  cases hd : Nat.toDigits 10 n with
  | nil => exact absurd hd Nat.toDigits_ne_nil
  | cons c more =>
    have digit : c.isDigit = true :=
      Nat.isDigit_of_mem_toDigits (b := 10) (n := n) (by decide) (by decide) (by simp [hd])
    rw [hd, List.cons_append] at number
    rw [List.cons_append]
    unfold next
    -- no token but a number starts with a digit
    split
    case h_11 => exact number
    all_goals
      next heq =>
      rw [(List.cons.inj heq).1] at digit
      exact absurd digit (by decide)

/-- The characters of a token are read as that token. -/
theorem next_chars (t : Token) {rest : List Char} (h : t.isNumeric → StopsNumber rest) :
    next (t.chars ++ rest) = some (t, rest) := by
  cases t with
  | nat n => exact next_toDigits n (h rfl)
  | number =>
    have stops := h rfl
    have whole := readWhole_toDigits 1 stops
    rw [Nat.toDigits_of_lt_base (by decide)] at whole
    change readWhole ('1' :: rest) = some (1, rest) at whole
    have number : readNumber ('-' :: '1' :: rest) = some (.number, rest) := by
      simp [readNumber, whole, readFraction_of_stops stops, readExponent_of_stops stops]
    unfold next
    exact number
  | text s =>
    cases s with
    | none =>
      have half : joinHalves [0xD800] = none := by decide
      show next ('"' :: '\\' :: 'u' :: 'd' :: '8' :: '0' :: '0' :: '"' :: rest) = _
      unfold next
      simp [readQuoted, hexValue?, half]
    | some s =>
      have inside := readQuoted_flatMap_escape s.toList rest
      show next ('"' :: (s.toList.flatMap escape ++ ['"']) ++ rest) = _
      rw [List.cons_append, List.append_assoc]
      unfold next
      simp [inside, joinHalves_map_toNat]
  | bool b => cases b <;> (unfold next; rfl)
  | _ => unfold next; rfl

/-- No token starts with a space. -/
theorem head?_chars (t : Token) : ∃ c cs, t.chars = c :: cs ∧ isSpace c = false := by
  cases t with
  | nat n =>
    cases hd : Nat.toDigits 10 n with
    | nil => exact absurd hd Nat.toDigits_ne_nil
    | cons c cs =>
      have digit : c.isDigit = true :=
        Nat.isDigit_of_mem_toDigits (b := 10) (n := n) (by decide) (by decide) (by simp [hd])
      refine ⟨c, cs, hd, ?_⟩
      -- a space is no digit
      cases space : isSpace c with
      | false => rfl
      | true =>
        simp only [isSpace, Bool.or_eq_true, beq_iff_eq] at space
        rcases space with ((rfl | rfl) | rfl) | rfl <;> exact absurd digit (by decide)
  | text s => cases s <;> exact ⟨'"', _, rfl, by decide⟩
  | bool b => cases b <;> exact ⟨_, _, rfl, by decide⟩
  | _ => exact ⟨_, _, rfl, by decide⟩

/-- The characters of a token are cut off as that token. -/
theorem tokenize_chars (t : Token) (rest : List Char) (h : t.isNumeric → StopsNumber rest) :
    tokenize (t.chars ++ rest) = (tokenize rest).map (t :: ·) := by
  have first := next_chars t h
  obtain ⟨c, cs, hc, hspace⟩ := head?_chars t
  rw [hc, List.cons_append] at first ⊢
  have drop : (c :: (cs ++ rest)).dropWhile isSpace = c :: (cs ++ rest) := by
    simp [hspace]
  rw [tokenize]
  split
  · simp_all
  · next d tail heq =>
    rw [drop] at heq
    obtain ⟨rfl, rfl⟩ := List.cons.inj heq
    split
    · simp_all
    · next heq =>
      rw [first] at heq
      simp_all

/-- The characters of a single token are cut into that token. -/
theorem tokenize_single (t : Token) {rest : List Char} (h : t.isNumeric → StopsNumber rest) :
    tokenize ([t].flatMap Token.chars ++ rest) = (tokenize rest).map ([t] ++ ·) := by
  rw [List.flatMap_singleton]
  exact tokenize_chars t _ h

/-- A token that is no number stops the number in front of it. -/
theorem stopsNumber_chars {t : Token} (h : t.isNumeric = false) (rest : List Char) :
    StopsNumber (t.chars ++ rest) := by
  cases t with
  | nat n => simp [Token.isNumeric] at h
  | number => simp [Token.isNumeric] at h
  | text s => cases s <;> (intro c hc; cases hc; decide)
  | bool b => cases b <;> (intro c hc; cases hc; decide)
  | _ => intro c hc; cases hc; decide

mutual

/-- The text of a value is cut into the tokens of that value. -/
theorem tokenize_tokens (j : Json) {rest : List Char} (h : StopsNumber rest) :
    tokenize (j.tokens.flatMap Token.chars ++ rest) = (tokenize rest).map (j.tokens ++ ·) := by
  match j with
  | .null => exact tokenize_single .null fun _ => h
  | .bool b => exact tokenize_single (.bool b) fun _ => h
  | .nat n => exact tokenize_single (.nat n) fun _ => h
  | .str s => exact tokenize_single (.text (some s)) fun _ => h
  | .unread => exact tokenize_single .number fun _ => h
  | .arr items =>
    have last := tokenize_chars .arrayEnd rest (by simp [Token.isNumeric])
    have inner := tokenize_itemTokens items (stopsNumber_chars (t := .arrayEnd) rfl rest)
    have first := tokenize_chars .arrayStart
      ((itemTokens items).flatMap Token.chars ++ (Token.chars .arrayEnd ++ rest))
      (by simp [Token.isNumeric])
    rw [inner, last] at first
    simpa [tokens, Function.comp_def] using first
  | .obj fields =>
    have last := tokenize_chars .objectEnd rest (by simp [Token.isNumeric])
    have inner := tokenize_fieldTokens fields (stopsNumber_chars (t := .objectEnd) rfl rest)
    have first := tokenize_chars .objectStart
      ((fieldTokens fields).flatMap Token.chars ++ (Token.chars .objectEnd ++ rest))
      (by simp [Token.isNumeric])
    rw [inner, last] at first
    simpa [tokens, Function.comp_def] using first

/-- The text of the items of an array is cut into their tokens. -/
theorem tokenize_itemTokens (items : List Json) {rest : List Char} (h : StopsNumber rest) :
    tokenize ((itemTokens items).flatMap Token.chars ++ rest)
      = (tokenize rest).map (itemTokens items ++ ·) := by
  match items with
  | [] => simp [itemTokens]
  | [item] => simpa [itemTokens] using tokenize_tokens item h
  | item :: second :: more =>
    have others := tokenize_itemTokens (second :: more) h
    have comma := tokenize_chars .comma
      ((itemTokens (second :: more)).flatMap Token.chars ++ rest)
      (by simp [Token.isNumeric])
    have first := tokenize_tokens item (stopsNumber_chars (t := .comma) rfl
      ((itemTokens (second :: more)).flatMap Token.chars ++ rest))
    rw [comma, others] at first
    simpa [itemTokens, Function.comp_def] using first

/-- The text of the fields of an object is cut into their tokens. -/
theorem tokenize_fieldTokens (fields : List (String × Json)) {rest : List Char}
    (h : StopsNumber rest) :
    tokenize ((fieldTokens fields).flatMap Token.chars ++ rest)
      = (tokenize rest).map (fieldTokens fields ++ ·) := by
  match fields with
  | [] => simp [fieldTokens]
  | [(key, value)] =>
    have inner := tokenize_tokens value h
    have colon := tokenize_chars .colon
      (value.tokens.flatMap Token.chars ++ rest)
      (by simp [Token.isNumeric])
    have name := tokenize_chars (.text (some key))
      (Token.chars .colon ++ (value.tokens.flatMap Token.chars ++ rest))
      (by simp [Token.isNumeric])
    rw [colon, inner] at name
    simpa [fieldTokens, Function.comp_def] using name
  | (key, value) :: second :: more =>
    have others := tokenize_fieldTokens (second :: more) h
    have comma := tokenize_chars .comma
      ((fieldTokens (second :: more)).flatMap Token.chars ++ rest)
      (by simp [Token.isNumeric])
    have inner := tokenize_tokens value (stopsNumber_chars (t := .comma) rfl
      ((fieldTokens (second :: more)).flatMap Token.chars ++ rest))
    rw [comma, others] at inner
    have colon := tokenize_chars .colon
      (value.tokens.flatMap Token.chars ++ (Token.chars .comma
        ++ ((fieldTokens (second :: more)).flatMap Token.chars ++ rest)))
      (by simp [Token.isNumeric])
    have name := tokenize_chars (.text (some key))
      (Token.chars .colon ++ (value.tokens.flatMap Token.chars ++ (Token.chars .comma
        ++ ((fieldTokens (second :: more)).flatMap Token.chars ++ rest))))
      (by simp [Token.isNumeric])
    rw [colon, inner] at name
    simpa [fieldTokens, Function.comp_def] using name

end

/-- A printed value is read back. -/
theorem parse_render (j : Json) : parse j.render = some j := by
  have cut := tokenize_tokens j stopsNumber_nil
  have none : tokenize [] = some [] := by
    rw [tokenize]
    rfl
  rw [List.append_nil, none, Option.map_some, List.append_nil] at cut
  rw [parse, render, String.toList_ofList, cut, Option.bind_some, ofTokens?_tokens]

end SessionRegistry.Json
