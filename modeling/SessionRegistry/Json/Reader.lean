import SessionRegistry.Json.Token

/-!
# Reading of JSON

Tokens are put together by a machine that reads them one at a time. What it has to remember is the
containers that are still open and what may come next.

* `foldlM_step_tokens`: reading the tokens of a value hands that value to its surroundings, whatever
  they are. So `ofTokens?` undoes `tokens`.
-/

namespace SessionRegistry.Json

/-- A container that is still open. What it holds so far is kept with the latest first. -/
inductive Frame where
  | array (done : List Json)
  /-- An object between two of its fields. It is absent if a key with half a surrogate pair
  occurred. -/
  | object (done : Option (List (String × Json)))
  /-- An object after a key and a colon. -/
  | field (done : Option (List (String × Json))) (key : Option String)

/-- What has been read and what may come next. -/
inductive State where
  /-- A value must come. -/
  | value (stack : List Frame)
  /-- The first item of an array or its end must come. -/
  | firstItem (stack : List Frame)
  /-- The first key of an object or its end must come. -/
  | firstKey (stack : List Frame)
  /-- The key of a further field must come. -/
  | key (done : Option (List (String × Json))) (stack : List Frame)
  /-- The colon after a key must come. -/
  | colon (done : Option (List (String × Json))) (key : Option String) (stack : List Frame)
  /-- A comma or the end of the innermost container must come. -/
  | after (frame : Frame) (stack : List Frame)
  /-- A whole value has been read and nothing may come. -/
  | finished (j : Json)

/-- Hand a value to the container around it. -/
def deliver (j : Json) : List Frame → State
  | [] => .finished j
  | .array done :: stack => .after (.array (j :: done)) stack
  | .object done :: stack => .after (.object done) stack
  | .field done key :: stack =>
    .after (.object (do return ((← key), j) :: (← done))) stack

/-- The value of an object that ends. -/
def closeObject : Option (List (String × Json)) → Json
  | none => .unread
  | some done => .obj done.reverse

/-- Read the first token of a value. -/
def stepValue (stack : List Frame) : Token → Option State
  | .null => some (deliver .null stack)
  | .bool b => some (deliver (.bool b) stack)
  | .nat n => some (deliver (.nat n) stack)
  -- nothing asks for a number that is not natural, so its value is not kept
  | .number => some (deliver .unread stack)
  | .text s => some (deliver (match s with | some s => .str s | none => .unread) stack)
  | .arrayStart => some (.firstItem stack)
  | .objectStart => some (.firstKey stack)
  | _ => none

/-- Read one token. -/
def step : State → Token → Option State
  | .value stack, t => stepValue stack t
  | .firstItem stack, .arrayEnd => some (deliver (.arr []) stack)
  | .firstItem stack, t => stepValue (.array [] :: stack) t
  | .firstKey stack, .objectEnd => some (deliver (.obj []) stack)
  | .firstKey stack, .text key => some (.colon (some []) key stack)
  | .key done stack, .text key => some (.colon done key stack)
  | .colon done key stack, .colon => some (.value (.field done key :: stack))
  | .after (.array done) stack, .comma => some (.value (.array done :: stack))
  | .after (.array done) stack, .arrayEnd => some (deliver (.arr done.reverse) stack)
  | .after (.object done) stack, .comma => some (.key done stack)
  | .after (.object done) stack, .objectEnd => some (deliver (closeObject done) stack)
  | _, _ => none

/-- The value that a list of tokens makes up. -/
def ofTokens? (ts : List Token) : Option Json :=
  match ts.foldlM step (.value []) with
  | some (.finished j) => some j
  | _ => none

/-- The value that a text denotes. -/
def parse (text : String) : Option Json :=
  (tokenize text.toList).bind ofTokens?

/-- Reading a token and then others. -/
theorem foldlM_step_cons {s u : State} {t : Token} (h : step s t = some u) (ts : List Token) :
    (t :: ts).foldlM step s = ts.foldlM step u := by
  rw [List.foldlM_cons, h]
  rfl

/-- Before the first item of an array, a token that does not end the array is read as the first
token of an item. -/
theorem foldlM_step_firstItem {ts : List Token} {stack : List Frame}
    (h : ∀ t ∈ ts.head?, t ≠ .arrayEnd) (hne : ts ≠ []) :
    ts.foldlM step (.firstItem stack) = ts.foldlM step (.value (.array [] :: stack)) := by
  cases ts with
  | nil => exact absurd rfl hne
  | cons t rest =>
    have : step (.firstItem stack) t = step (.value (.array [] :: stack)) t := by
      cases t <;> first | rfl | exact absurd rfl (h _ rfl)
    rw [List.foldlM_cons, List.foldlM_cons, this]

/-- The tokens of a value do not start with the end of an array. -/
theorem head?_tokens (j : Json) (rest : List Token) :
    (∀ t ∈ (j.tokens ++ rest).head?, t ≠ .arrayEnd) ∧ j.tokens ++ rest ≠ [] := by
  cases j <;> simp [tokens]

/-- The tokens of the items of a nonempty array do not start with the end of an array. -/
theorem head?_itemTokens (item : Json) (more : List Json) (rest : List Token) :
    (∀ t ∈ (itemTokens (item :: more) ++ rest).head?, t ≠ .arrayEnd)
      ∧ itemTokens (item :: more) ++ rest ≠ [] := by
  cases more with
  | nil => simpa [itemTokens] using head?_tokens item rest
  | cons second more =>
    simpa [itemTokens] using head?_tokens item (.comma :: (itemTokens (second :: more) ++ rest))

/-- Before the first key of an object, a key is read like one after a comma. -/
theorem foldlM_step_firstKey (field : String × Json) (more : List (String × Json))
    (rest : List Token) (stack : List Frame) :
    (fieldTokens (field :: more) ++ rest).foldlM step (.firstKey stack)
      = (fieldTokens (field :: more) ++ rest).foldlM step (.key (some []) stack) := by
  cases more <;> rfl

mutual

/-- Reading the tokens of a value hands that value to its surroundings. -/
theorem foldlM_step_tokens (j : Json) (rest : List Token) (stack : List Frame) :
    (j.tokens ++ rest).foldlM step (.value stack) = rest.foldlM step (deliver j stack) := by
  match j with
  | .null => exact foldlM_step_cons rfl rest
  | .bool b => exact foldlM_step_cons rfl rest
  | .nat n => exact foldlM_step_cons rfl rest
  | .str s => exact foldlM_step_cons rfl rest
  | .unread => exact foldlM_step_cons rfl rest
  | .arr [] => rfl
  | .obj [] => rfl
  | .arr (item :: more) =>
    have start := head?_itemTokens item more (.arrayEnd :: rest)
    have first := foldlM_step_cons (t := .arrayStart) (s := .value stack) rfl
      (itemTokens (item :: more) ++ .arrayEnd :: rest)
    rw [foldlM_step_firstItem start.1 start.2,
      foldlM_step_itemTokens (item :: more) (by simp)] at first
    simpa [tokens] using first
  | .obj (field :: more) =>
    have first := foldlM_step_cons (t := .objectStart) (s := .value stack) rfl
      (fieldTokens (field :: more) ++ .objectEnd :: rest)
    rw [foldlM_step_firstKey, foldlM_step_fieldTokens (field :: more) (by simp)] at first
    simpa [tokens] using first

/-- Reading the items of an array puts them into the array around them. -/
theorem foldlM_step_itemTokens (items : List Json) (hne : items ≠ []) (done : List Json)
    (rest : List Token) (stack : List Frame) :
    (itemTokens items ++ .arrayEnd :: rest).foldlM step (.value (.array done :: stack))
      = rest.foldlM step (deliver (.arr (done.reverse ++ items)) stack) := by
  match items with
  | [] => exact absurd rfl hne
  | [item] =>
    rw [itemTokens, foldlM_step_tokens item, foldlM_step_cons (u := deliver _ stack) rfl rest]
    simp
  | item :: second :: more =>
    have onward := foldlM_step_itemTokens (second :: more) (by simp) (item :: done) rest stack
    rw [itemTokens, List.append_assoc, foldlM_step_tokens item, List.cons_append,
      foldlM_step_cons (u := .value (.array (item :: done) :: stack)) rfl, onward]
    simp

/-- Reading the fields of an object puts them into the object around them. -/
theorem foldlM_step_fieldTokens (fields : List (String × Json)) (hne : fields ≠ [])
    (done : List (String × Json)) (rest : List Token) (stack : List Frame) :
    (fieldTokens fields ++ .objectEnd :: rest).foldlM step (.key (some done) stack)
      = rest.foldlM step (deliver (.obj (done.reverse ++ fields)) stack) := by
  match fields with
  | [] => exact absurd rfl hne
  | [(key, value)] =>
    have inner :=
      foldlM_step_tokens value (.objectEnd :: rest) (.field (some done) (some key) :: stack)
    rw [foldlM_step_cons (u := deliver (.obj ((key, value) :: done).reverse) stack) rfl rest]
      at inner
    rw [fieldTokens, List.cons_append, List.cons_append,
      foldlM_step_cons (u := .colon (some done) (some key) stack) rfl,
      foldlM_step_cons (u := .value (.field (some done) (some key) :: stack)) rfl, inner]
    simp
  | (key, value) :: second :: more =>
    have inner :=
      foldlM_step_tokens value (.comma :: (fieldTokens (second :: more) ++ .objectEnd :: rest))
        (.field (some done) (some key) :: stack)
    have onward := foldlM_step_fieldTokens (second :: more) (by simp) ((key, value) :: done) rest
      stack
    rw [foldlM_step_cons (u := .key (some ((key, value) :: done)) stack) rfl, onward] at inner
    rw [fieldTokens, List.append_assoc, List.cons_append, List.cons_append, List.cons_append,
      foldlM_step_cons (u := .colon (some done) (some key) stack) rfl,
      foldlM_step_cons (u := .value (.field (some done) (some key) :: stack)) rfl, inner]
    simp

end

/-- The value of the tokens of a value is that value. -/
theorem ofTokens?_tokens (j : Json) : ofTokens? j.tokens = some j := by
  have h := foldlM_step_tokens j [] []
  rw [List.append_nil] at h
  rw [ofTokens?, h]
  rfl

end SessionRegistry.Json
