import SessionRegistry.Proofs.Console.Reading
import SessionRegistry.Proofs.Status.Reading

/-!
# Filters and pages are read as they are written

A request writes a filter and a page as texts. A condition that is absent is left out or blank; one
that is present is spelled, with any blank characters around it. What is read is what is written,
and a request that spells nothing where something must be spelled is refused.

## Main definitions

* `Parameters.Writes`: a parameter writes a value that may be absent.
* `SessionFilter.WrittenIn`, `LockFilter.WrittenIn`, `PageRequest.WrittenIn`: a request writes it.

## Main results

* `Parameters.optional_eq_ok_iff`: a parameter is read as the value that it writes.
* `Parameters.read_as_written`: so are filters and pages, and all other requests are refused.
-/

namespace SessionRegistry

/-! ## How values are spelled -/

namespace Spelling

/-- A name is spelled as it is. It is not empty and has no blank characters at its ends. -/
def Name (word name : String) : Prop :=
  word = name ∧ Text.IsTrimmed name

/-- A number of 64 bits is spelled in base ten, perhaps with zeros and a plus sign before it. -/
def Word (word : String) (n : UInt64) : Prop :=
  Text.SpellsNat word.toList n.toNat

/-- A truth value is spelled in small letters. -/
def Flag (word : String) (b : Bool) : Prop :=
  word = if b then "true" else "false"

/-- A page number or size is spelled as an integer of 64 bits with any sign, whose place is taken by
the nearest number of 32 bits. -/
def PageField (word : String) (n : UInt32) : Prop :=
  ∃ i : Int, Text.SpellsInt word.toList i ∧ -Int.pow 2 63 ≤ i ∧ i < Int.pow 2 63 ∧
    (n.toNat : Int) = max 0 (min i (UInt32.size - 1))

/-- The status of a session is spelled as its code or its name. -/
def Status (word : String) (status : GlobalStatus) : Prop :=
  GlobalStatus.nomenclature.Spells word status

theorem Word.isTrimmed {word : String} {n : UInt64} (h : Word word n) : Text.IsTrimmed word :=
  (Text.SpellsInt.nat h).isTrimmed

theorem Flag.isTrimmed {word : String} {b : Bool} (h : Flag word b) : Text.IsTrimmed word := by
  cases b <;> subst h <;> exact .of_any_eq_false (by decide) (by decide)

theorem PageField.isTrimmed {word : String} {n : UInt32} (h : PageField word n) :
    Text.IsTrimmed word :=
  h.choose_spec.1.isTrimmed

theorem Status.isTrimmed {word : String} {status : GlobalStatus} (h : Status word status) :
    Text.IsTrimmed word :=
  Nomenclature.Spells.isTrimmed _ h

end Spelling

/-! ## How parameters are written -/

namespace Parameters

variable {α : Type} {ps : Parameters} {parameter : Parameter} {word : String} {value : Option α}
  {spells : String → α → Prop} {read : String → Except Error α}

/-- A parameter is left out or blank. -/
def Lacks (ps : Parameters) (parameter : Parameter) : Prop :=
  ∀ text ∈ ps.text? parameter, Text.isBlankText text = true

/-- A parameter is a word with blank characters around it. -/
def Gives (ps : Parameters) (parameter : Parameter) (word : String) : Prop :=
  ∃ text ∈ ps.text? parameter, Text.Padded word text

/-- A parameter writes a value that may be absent: an absent one by being left out or blank, and one
that is present by a word that spells it. -/
inductive Writes (ps : Parameters) (parameter : Parameter) (spells : String → α → Prop) :
    Option α → Prop
  | absent : ps.Lacks parameter → Writes ps parameter spells .none
  | present {word : String} {a : α} :
      ps.Gives parameter word → spells word a → Writes ps parameter spells (some a)

theorem present?_eq_none_iff : ps.present? parameter = .none ↔ ps.Lacks parameter := by
  rw [present?, Lacks]
  cases ps.text? parameter with
  | none => simp
  | some text => simp [Text.trim_eq_empty_iff]

theorem present?_eq_some_iff (trimmed : Text.IsTrimmed word) :
    ps.present? parameter = some word ↔ ps.Gives parameter word := by
  rw [present?, Gives]
  cases ps.text? parameter with
  | none => simp
  | some text =>
    simp only [Option.bind_some, Option.ite_none_left_eq_some, Option.some.injEq,
      Option.mem_def, exists_eq_left', Text.trim_eq_iff trimmed]
    refine ⟨fun h => h.2, fun padded => ⟨fun empty => trimmed.ne_empty ?_, padded⟩⟩
    rw [← (Text.trim_eq_iff trimmed).2 padded, empty]

theorem isTrimmed_of_present? (h : ps.present? parameter = some word) : Text.IsTrimmed word := by
  rw [present?] at h
  obtain ⟨text, -, read⟩ := Option.bind_eq_some_iff.1 h
  obtain ⟨filled, same⟩ := Option.ite_none_left_eq_some.1 read
  exact Option.some.inj same ▸ Text.isTrimmed_iff.2 ⟨filled, Text.trim_trim text⟩

/-- A parameter is read as a value exactly if it writes the value. -/
theorem optional_eq_ok_iff (trimmed : ∀ {word a}, spells word a → Text.IsTrimmed word)
    (reads : ∀ {word a}, Text.IsTrimmed word → (read word = .ok a ↔ spells word a)) :
    ps.optional parameter read = .ok value ↔ ps.Writes parameter spells value := by
  rw [optional]
  cases given : ps.present? parameter with
  | none =>
    have lacks := present?_eq_none_iff.1 given
    refine ⟨fun h => by cases h; exact .absent lacks, fun writes => ?_⟩
    cases writes with
    | absent => rfl
    | present gives spelled =>
      simp [(present?_eq_some_iff (trimmed spelled)).2 gives] at given
  | some word =>
    have filled := isTrimmed_of_present? given
    have gives := (present?_eq_some_iff filled).1 given
    constructor
    · intro h
      cases result : read word with
      | error e => simp [result, Except.map] at h
      | ok a =>
        simp only [result, Except.map, Except.ok.injEq] at h
        exact h ▸ .present gives ((reads filled).1 result)
    · intro writes
      cases writes with
      | absent lacks => simp [present?_eq_none_iff.2 lacks] at given
      | present other spelled =>
        rw [(present?_eq_some_iff (trimmed spelled)).2 other, Option.some.injEq] at given
        subst given
        simp [(reads filled).2 spelled, Except.map]

/-- A text that may be absent is read as what it writes. -/
theorem present?_eq_iff {name : Option String} :
    ps.present? parameter = name ↔ ps.Writes parameter Spelling.Name name := by
  constructor
  · rintro rfl
    cases given : ps.present? parameter with
    | none => exact .absent (present?_eq_none_iff.1 given)
    | some word =>
      have trimmed := isTrimmed_of_present? given
      exact .present ((present?_eq_some_iff trimmed).1 given) ⟨rfl, trimmed⟩
  · intro writes
    cases writes with
    | absent lacks => exact present?_eq_none_iff.2 lacks
    | present gives spelled =>
      obtain ⟨rfl, trimmed⟩ := spelled
      exact (present?_eq_some_iff trimmed).2 gives

/-! ## How words are read -/

theorem readTime_eq_ok_iff {time : Millis} :
    readTime parameter word = .ok time ↔ Spelling.Word word time := by
  rw [readTime, Spelling.Word, ← Text.readUInt64_eq_some_iff]
  cases Text.readUInt64 word <;> simp

theorem readBranchId_eq_ok_iff {id : BranchId} :
    readBranchId word = .ok id ↔ Spelling.Word word id := by
  rw [readBranchId, Spelling.Word, ← Text.readUInt64_eq_some_iff]
  cases Text.readUInt64 word <;> simp

theorem readFlag_eq_ok_iff {b : Bool} : readFlag word = .ok b ↔ Spelling.Flag word b := by
  rw [readFlag, Spelling.Flag]
  by_cases yes : word = "true"
  · cases b <;> simp [yes]
  · by_cases no : word = "false"
    · cases b <;> simp [no]
    · cases b <;> simp [yes, no]

theorem ofText_eq_ok_iff {status : GlobalStatus} (trimmed : Text.IsTrimmed word) :
    GlobalStatus.ofText word = .ok status ↔ Spelling.Status word status := by
  rw [GlobalStatus.ofText, Nomenclature.read_eq_ok_iff, Nomenclature.Denotes,
    trimmed.trim_eq, Spelling.Status]

/-- The place of an integer is taken by the nearest number of 32 bits. -/
theorem nearestUInt32_eq_iff {i : Int} {n : UInt32} :
    nearestUInt32 i = n ↔ (n.toNat : Int) = max 0 (min i (UInt32.size - 1)) := by
  have size : UInt32.size = 4294967296 := rfl
  rw [← UInt32.toNat_inj, nearestUInt32, UInt32.toNat_ofNat_of_lt' (by omega)]
  omega

theorem readPageField_eq_ok_iff {n : UInt32} :
    readPageField parameter word = .ok n ↔ Spelling.PageField word n := by
  have bound : Int.pow 2 (64 - 1) = Int.pow 2 63 := rfl
  rw [readPageField, Spelling.PageField]
  cases number : Text.readInt 64 word with
  | none =>
    refine iff_of_false nofun ?_
    rintro ⟨i, spelled, low, high, -⟩
    rw [Text.readInt_eq_some_iff.2 ⟨spelled, bound ▸ low, bound ▸ high⟩] at number
    cases number
  | some i =>
    obtain ⟨spelled, low, high⟩ := Text.readInt_eq_some_iff.1 number
    rw [Except.ok.injEq, nearestUInt32_eq_iff]
    refine ⟨fun nearest => ⟨i, spelled, bound ▸ low, bound ▸ high, nearest⟩, ?_⟩
    rintro ⟨j, other, -, -, nearest⟩
    exact spelled.unique other ▸ nearest

end Parameters

/-! ## What requests write -/

/-- A request writes a filter of sessions. -/
structure SessionFilter.WrittenIn (filter : SessionFilter) (ps : Parameters) : Prop where
  xid : ps.Writes .xid Spelling.Name filter.xid
  applicationId : ps.Writes .applicationId Spelling.Name filter.applicationId
  status : ps.Writes .status Spelling.Status filter.status
  name : ps.Writes .transactionName Spelling.Name filter.name
  timeStart : ps.Writes .timeStart Spelling.Word filter.timeStart
  timeEnd : ps.Writes .timeEnd Spelling.Word filter.timeEnd
  /-- Branches are not shown unless it is said. -/
  withBranch : ∃ flag, ps.Writes .withBranch Spelling.Flag flag ∧
    filter.withBranch = flag.getD false

/-- A request writes a filter of row locks. -/
structure LockFilter.WrittenIn (filter : LockFilter) (ps : Parameters) : Prop where
  xid : ps.Writes .xid Spelling.Name filter.xid
  branchId : ps.Writes .branchId Spelling.Word filter.branchId
  resourceId : ps.Writes .resourceId Spelling.Name filter.resourceId
  table : ps.Writes .tableName Spelling.Name filter.table
  key : ps.Writes .pk Spelling.Name filter.key

/-- A request writes which page is wanted. -/
structure PageRequest.WrittenIn (page : PageRequest) (ps : Parameters) : Prop where
  /-- The first page is wanted unless another one is named. -/
  number : ∃ number, ps.Writes .pageNum Spelling.PageField number ∧ page.number = number.getD 1
  /-- Ten rows are wanted unless another number is named. -/
  size : ∃ size, ps.Writes .pageSize Spelling.PageField size ∧ page.size = size.getD 10

namespace Parameters

variable {ps : Parameters}

theorem mapError_eq_ok_iff {α : Type} {f : Error → Error} {result : Except Error α} {a : α} :
    result.mapError f = .ok a ↔ result = .ok a := by
  cases result <;> simp [Except.mapError]

/-- What is read as a filter of sessions is what is written. -/
theorem sessionFilter_eq_ok_iff {filter : SessionFilter} :
    ps.sessionFilter = .ok filter ↔ filter.WrittenIn ps := by
  simp only [sessionFilter, status, bind_eq_ok_iff, mapError_eq_ok_iff,
    optional_eq_ok_iff Spelling.Status.isTrimmed ofText_eq_ok_iff,
    optional_eq_ok_iff Spelling.Flag.isTrimmed fun _ => readFlag_eq_ok_iff,
    optional_eq_ok_iff Spelling.Word.isTrimmed fun _ => readTime_eq_ok_iff]
  constructor
  · rintro ⟨status, hstatus, flag, hflag, first, hfirst, last, hlast, same⟩
    cases same
    exact ⟨present?_eq_iff.1 rfl, present?_eq_iff.1 rfl, hstatus, present?_eq_iff.1 rfl, hfirst,
      hlast, flag, hflag, rfl⟩
  · intro written
    obtain ⟨flag, hflag, withBranch⟩ := written.withBranch
    refine ⟨_, written.status, flag, hflag, _, written.timeStart, _, written.timeEnd, ?_⟩
    rw [present?_eq_iff.2 written.xid, present?_eq_iff.2 written.applicationId,
      present?_eq_iff.2 written.name, ← withBranch]
    rfl

/-- What is read as a filter of row locks is what is written. -/
theorem lockFilter_eq_ok_iff {filter : LockFilter} :
    ps.lockFilter = .ok filter ↔ filter.WrittenIn ps := by
  simp only [lockFilter, bind_eq_ok_iff, mapError_eq_ok_iff,
    optional_eq_ok_iff Spelling.Word.isTrimmed fun _ => readBranchId_eq_ok_iff]
  constructor
  · rintro ⟨id, hid, same⟩
    cases same
    exact ⟨present?_eq_iff.1 rfl, hid, present?_eq_iff.1 rfl, present?_eq_iff.1 rfl,
      present?_eq_iff.1 rfl⟩
  · intro written
    refine ⟨_, written.branchId, ?_⟩
    rw [present?_eq_iff.2 written.xid, present?_eq_iff.2 written.resourceId,
      present?_eq_iff.2 written.table, present?_eq_iff.2 written.key]
    rfl

/-- What is read as a page is what is written. -/
theorem page_eq_ok_iff {page : PageRequest} : ps.page = .ok page ↔ page.WrittenIn ps := by
  simp only [Parameters.page, bind_eq_ok_iff,
    optional_eq_ok_iff Spelling.PageField.isTrimmed fun _ => readPageField_eq_ok_iff]
  constructor
  · rintro ⟨number, hnumber, size, hsize, same⟩
    cases same
    exact ⟨⟨number, hnumber, rfl⟩, size, hsize, rfl⟩
  · rintro ⟨⟨number, hnumber, first⟩, size, hsize, second⟩
    refine ⟨number, hnumber, size, hsize, ?_⟩
    obtain ⟨_, _⟩ := page
    subst first second
    rfl

/-! ## Requests that are refused -/

section Refusal

variable {α β : Type} {kind : ErrorKind} {result : Except Error α} {parameter : Parameter}
  {spells : String → α → Prop} {read : String → Except Error α}

/-- A parameter is given but spells no value. -/
def Garbles (ps : Parameters) (parameter : Parameter) (spells : String → α → Prop) : Prop :=
  ∀ value, ¬ ps.Writes parameter spells value

/-- What is not read spells no value. -/
theorem garbles_of_error {e : Error} (trimmed : ∀ {word a}, spells word a → Text.IsTrimmed word)
    (reads : ∀ {word a}, Text.IsTrimmed word → (read word = .ok a ↔ spells word a))
    (failed : ps.optional parameter read = .error e) : ps.Garbles parameter spells := by
  intro value writes
  rw [(optional_eq_ok_iff trimmed reads).2 writes] at failed
  cases failed

/-- A result is an error of a kind. -/
def Refuses (kind : ErrorKind) (result : Except Error α) : Prop :=
  ∃ e, result = .error e ∧ e.kind = kind

/-- If a result is an error, then one of a certain kind. -/
def ErrsAs (kind : ErrorKind) (result : Except Error α) : Prop :=
  ∀ e, result = .error e → e.kind = kind

theorem ErrsAs.refuses (errs : ErrsAs kind result) (nothing : ∀ a, result ≠ .ok a) :
    Refuses kind result := by
  cases result with
  | error e => exact ⟨e, rfl, errs e rfl⟩
  | ok a => exact absurd rfl (nothing a)

theorem ErrsAs.pure (a : α) : ErrsAs kind (Pure.pure a) :=
  fun _ h => by cases h

theorem ErrsAs.bind {f : α → Except Error β} (first : ErrsAs kind result)
    (rest : ∀ a, ErrsAs kind (f a)) : ErrsAs kind (result >>= f) := by
  cases result with
  | error e => exact fun e' h => first e' (by cases h; rfl)
  | ok a => exact rest a

/-- Errors of a parameter that is read are those of its reading. -/
theorem exists_of_optional_eq_error {e : Error} (h : ps.optional parameter read = .error e) :
    ∃ word, read word = .error e := by
  rw [optional] at h
  split at h
  · cases h
  · next word _ =>
    cases failed : read word with
    | error e' =>
      rw [failed] at h
      cases h
      exact ⟨word, failed⟩
    | ok a =>
      rw [failed] at h
      cases h

theorem ErrsAs.optional (reads : ∀ word, ErrsAs kind (read word)) :
    ErrsAs kind (ps.optional parameter read) := fun e h =>
  have ⟨word, failed⟩ := exists_of_optional_eq_error h
  reads word e failed

/-- An argument that cannot be read makes an invalid query of a filter. -/
theorem ErrsAs.inFilter (unreadable : ∀ e, result = .error e →
    ∃ why, e = .invalidArgument (.unreadable why)) :
    ErrsAs .invalidQuery (result.mapError Error.inFilter) := by
  cases result with
  | ok a => exact fun _ h => by cases h
  | error e =>
    obtain ⟨why, rfl⟩ := unreadable e rfl
    exact fun _ h => by cases h; rfl

theorem errsAs_readFlag (word : String) : ErrsAs .invalidQuery (readFlag word) := by
  intro e h
  rw [readFlag] at h
  split at h
  · cases h
  · split at h <;> cases h
    rfl

theorem errsAs_readTime (word : String) : ErrsAs .invalidQuery (readTime parameter word) := by
  intro e h
  rw [readTime] at h
  split at h <;> cases h
  rfl

theorem errsAs_readPageField (word : String) :
    ErrsAs .invalidPagination (readPageField parameter word) := by
  intro e h
  rw [readPageField] at h
  split at h <;> cases h
  rfl

theorem unreadable_of_readBranchId {word : String} {e : Error}
    (h : readBranchId word = .error e) : ∃ why, e = .invalidArgument (.unreadable why) := by
  rw [readBranchId] at h
  split at h <;> cases h
  exact ⟨_, rfl⟩

theorem unreadable_of_ofText {word : String} {e : Error}
    (h : GlobalStatus.ofText word = .error e) :
    ∃ why, e = .invalidArgument (.unreadable why) := by
  rw [GlobalStatus.ofText] at h
  have unknown (status : GlobalStatus) : ¬ GlobalStatus.nomenclature.Denotes word status := by
    rw [← GlobalStatus.nomenclature.read_eq_ok_iff .globalCode .globalName, h]
    exact nofun
  exact ⟨_, Except.error.inj (h.symm.trans (Nomenclature.read_eq_error _ _ _ unknown))⟩

theorem errsAs_sessionFilter : ErrsAs .invalidQuery ps.sessionFilter := by
  refine .bind (.inFilter fun e h => ?_) fun _ => .bind (.optional errsAs_readFlag) fun _ =>
    .bind (.optional errsAs_readTime) fun _ => .bind (.optional errsAs_readTime) fun _ => .pure _
  have ⟨_, failed⟩ := exists_of_optional_eq_error h
  exact unreadable_of_ofText failed

theorem errsAs_lockFilter : ErrsAs .invalidQuery ps.lockFilter := by
  refine .bind (.inFilter fun e h => ?_) fun _ => .pure _
  have ⟨_, failed⟩ := exists_of_optional_eq_error h
  exact unreadable_of_readBranchId failed

theorem errsAs_page : ErrsAs .invalidPagination ps.page :=
  .bind (.optional errsAs_readPageField) fun _ => .bind (.optional errsAs_readPageField) fun _ =>
    .pure _

end Refusal

/-- What is read as a filter or a page is what the request writes. If a condition that must be
spelled is given but is not, the filter is an invalid query; and a page of which a number is given
but not spelled is an invalid page. -/
theorem read_as_written (ps : Parameters) :
    (∀ filter, ps.sessionFilter = .ok filter ↔ SessionFilter.WrittenIn filter ps) ∧
      (∀ filter, ps.lockFilter = .ok filter ↔ LockFilter.WrittenIn filter ps) ∧
      (∀ page, ps.page = .ok page ↔ PageRequest.WrittenIn page ps) ∧
      (ps.Garbles .status Spelling.Status ∨ ps.Garbles .withBranch Spelling.Flag ∨
        ps.Garbles .timeStart Spelling.Word ∨ ps.Garbles .timeEnd Spelling.Word →
          Refuses .invalidQuery ps.sessionFilter) ∧
      (ps.Garbles .branchId Spelling.Word → Refuses .invalidQuery ps.lockFilter) ∧
      (ps.Garbles .pageNum Spelling.PageField ∨ ps.Garbles .pageSize Spelling.PageField →
        Refuses .invalidPagination ps.page) := by
  refine ⟨fun _ => sessionFilter_eq_ok_iff, fun _ => lockFilter_eq_ok_iff, fun _ => page_eq_ok_iff,
    fun garbled => errsAs_sessionFilter.refuses fun filter read => ?_,
    fun garbled => errsAs_lockFilter.refuses fun filter read => ?_,
    fun garbled => errsAs_page.refuses fun page read => ?_⟩
  · have written := sessionFilter_eq_ok_iff.1 read
    obtain ⟨flag, shown, -⟩ := written.withBranch
    rcases garbled with status | withBranch | timeStart | timeEnd
    · exact status _ written.status
    · exact withBranch _ shown
    · exact timeStart _ written.timeStart
    · exact timeEnd _ written.timeEnd
  · exact garbled _ (lockFilter_eq_ok_iff.1 read).branchId
  · obtain ⟨⟨_, number, -⟩, _, size, -⟩ := page_eq_ok_iff.1 read
    rcases garbled with pageNum | pageSize
    · exact pageNum _ number
    · exact pageSize _ size

/-- A request with blank characters around its values, a status in small letters, a number with
zeros before it, and page numbers out of range. -/
def padded : Parameters :=
  ((((none.set .status " committed\u3000").set .timeStart "\t+007").set .branchId "").set
    .pageNum "-3 ").set .pageSize " 99999999999"

/-- What is left out of the request, or blank. -/
theorem lacks_padded : ∀ parameter ∉ [Parameter.status, .timeStart, .pageNum, .pageSize],
    padded.Lacks parameter := by
  intro parameter other
  rw [Lacks]
  cases parameter <;> first | exact absurd (by decide) other | decide

theorem read_as_written_of_padded :
    padded.sessionFilter = .ok { status := some .committed, timeStart := some 7 } ∧
      padded.lockFilter = .ok {} ∧ padded.page = .ok { number := 0, size := 4294967295 } ∧
      Refuses .invalidQuery (padded.set .withBranch "TRUE").sessionFilter ∧
      Refuses .invalidQuery (padded.set .branchId "-1").lockFilter ∧
      Refuses .invalidPagination (padded.set .pageSize "ten").page := by
  have absent {α : Type} {spells : String → α → Prop} {parameter : Parameter}
      (other : parameter ∉ [Parameter.status, .timeStart, .pageNum, .pageSize]) :
      padded.Writes parameter spells .none :=
    .absent (lacks_padded parameter other)
  have status : padded.Gives .status "committed" :=
    ⟨" committed\u3000", rfl, [' '], ['\u3000'], List.forall_mem_singleton.2 rfl,
      List.forall_mem_singleton.2 rfl, by decide⟩
  have timeStart : padded.Gives .timeStart "+007" :=
    ⟨"\t+007", rfl, ['\t'], [], List.forall_mem_singleton.2 rfl, nofun, by decide⟩
  have pageNum : padded.Gives .pageNum "-3" :=
    ⟨"-3 ", rfl, [], [' '], nofun, List.forall_mem_singleton.2 rfl, by decide⟩
  have pageSize : padded.Gives .pageSize "99999999999" :=
    ⟨" 99999999999", rfl, [' '], [], List.forall_mem_singleton.2 rfl, nofun, by decide⟩
  have seven : readTime .timeStart "+007" = .ok 7 := by decide
  have below : readPageField .pageNum "-3" = .ok 0 := by decide
  have above : readPageField .pageSize "99999999999" = .ok 4294967295 := by decide
  refine ⟨((read_as_written padded).1 _).2 ?_, ((read_as_written padded).2.1 _).2 ?_,
    ((read_as_written padded).2.2.1 _).2 ?_, (read_as_written _).2.2.2.1 (.inr (.inl ?_)),
    (read_as_written _).2.2.2.2.1 ?_, (read_as_written _).2.2.2.2.2 (.inr ?_)⟩
  · exact {
      xid := absent (by decide)
      applicationId := absent (by decide)
      status := .present status (.name (by decide))
      name := absent (by decide)
      timeStart := .present timeStart (readTime_eq_ok_iff.1 seven)
      timeEnd := absent (by decide)
      withBranch := ⟨_, absent (by decide), rfl⟩ }
  · exact ⟨absent (by decide), absent (by decide), absent (by decide), absent (by decide),
      absent (by decide)⟩
  · exact ⟨⟨_, .present pageNum (readPageField_eq_ok_iff.1 below), rfl⟩,
      _, .present pageSize (readPageField_eq_ok_iff.1 above), rfl⟩
  · exact garbles_of_error Spelling.Flag.isTrimmed (fun _ => readFlag_eq_ok_iff) rfl
  · exact garbles_of_error Spelling.Word.isTrimmed (fun _ => readBranchId_eq_ok_iff) rfl
  · have failed : (padded.set .pageSize "ten").optional .pageSize (readPageField .pageSize) =
        .error (.invalidPagination (.notInteger "pageSize" "ten")) := by decide
    exact garbles_of_error Spelling.PageField.isTrimmed (fun _ => readPageField_eq_ok_iff) failed

end Parameters

end SessionRegistry
