import SessionRegistry.Error
import SessionRegistry.Text.Basic
import SessionRegistry.Text.Utf8

/-!
# Parameters

A request to the console carries named texts. Its query lists them as `name=text&name=text`, where a
plus sign stands for a space and an escape such as `%2B` for a byte; the bytes are UTF-8. Taking the
query apart never fails: an escape without two hexadecimal digits stays as it is, and damaged UTF-8
is read leniently.

Each request reads the parameters that it knows and
passes over all others; of those that it knows, none may be given twice. A blank text counts as
none at all.
-/

namespace SessionRegistry

/-! ## Form data -/

namespace Form

/-- The byte that two hexadecimal digits denote. -/
def escaped? (high low : UInt8) : Option UInt8 := do
  let h ← Text.hexValue? (Char.ofNat high.toNat)
  let l ← Text.hexValue? (Char.ofNat low.toNat)
  return UInt8.ofNat (16 * h + l)

/-- Bytes with plus signs and escapes resolved. -/
def unescape : Bytes → Bytes
  | 0x25 :: high :: low :: rest =>
    match escaped? high low with
    | some b => b :: unescape rest
    -- the two bytes may begin an escape of their own
    | none => 0x25 :: unescape (high :: low :: rest)
  | b :: rest => (if b = 0x2B then 0x20 else b) :: unescape rest
  | [] => []

/-- A name or a text as it was meant. -/
def unquote (bytes : Bytes) : String :=
  Utf8.lenient (unescape bytes)

/-- The name and the text of one field. A field without an equals sign has an empty text. -/
def field (bytes : Bytes) : String × String :=
  (unquote (bytes.takeWhile (· != 0x3D)), unquote ((bytes.dropWhile (· != 0x3D)).drop 1))

/-- The fields of a query, in order. -/
def parse (query : String) : List (String × String) :=
  (((Utf8.encode query).splitOn 0x26).filter fun bytes => !bytes.isEmpty).map field

end Form

/-! ## Parameters -/

/-- A parameter that some request knows. -/
inductive Parameter where
  | xid
  | branchId
  | applicationId
  | status
  | transactionName
  | withBranch
  | pageNum
  | pageSize
  | timeStart
  | timeEnd
  | resourceId
  | tableName
  | pk
  | action
  deriving DecidableEq, Repr, Inhabited

namespace Parameter

/-- Every parameter, in the order of declaration. -/
def all : List Parameter :=
  [xid, branchId, applicationId, status, transactionName, withBranch, pageNum, pageSize, timeStart,
    timeEnd, resourceId, tableName, pk, action]

/-- The name under which a request gives the parameter. -/
def name : Parameter → String
  | xid => "xid"
  | branchId => "branchId"
  | applicationId => "applicationId"
  | status => "status"
  | transactionName => "transactionName"
  | withBranch => "withBranch"
  | pageNum => "pageNum"
  | pageSize => "pageSize"
  | timeStart => "timeStart"
  | timeEnd => "timeEnd"
  | resourceId => "resourceId"
  | tableName => "tableName"
  | pk => "pk"
  | action => "action"

end Parameter

/-- The texts that a request gives. -/
structure Parameters where
  /-- The text of a parameter, if it is given. -/
  text? : Parameter → Option String

namespace Parameters

/-- No parameter is given. -/
def none : Parameters where
  text? _ := .none

/-- Give a parameter a text. -/
def set (parameters : Parameters) (parameter : Parameter) (text : String) : Parameters where
  text? p := if p = parameter then some text else parameters.text? p

/-- Take one more field of a request. A parameter that has been given before is an error. -/
def take (known : List Parameter) (parameters : Parameters) (field : String × String) :
    Except Parameter Parameters :=
  match known.find? (·.name == field.1) with
  | .none => .ok parameters
  | some parameter =>
    if (parameters.text? parameter).isSome then .error parameter
    else .ok (parameters.set parameter field.2)

/-- The known parameters among the fields of a request, or the first one that is given again. -/
def ofFields (known : List Parameter) (fields : List (String × String)) :
    Except Parameter Parameters :=
  fields.foldlM (take known) none

/-- The text of a parameter without blank characters at its ends. A blank text counts as none. -/
def present? (parameters : Parameters) (parameter : Parameter) : Option String :=
  (parameters.text? parameter).bind fun text =>
    let trimmed := Text.trim text
    if trimmed = "" then .none else some trimmed

/-- The text of a parameter that the request cannot do without. -/
def require (parameters : Parameters) (parameter : Parameter) : Except Error String :=
  match parameters.present? parameter with
  | some text => .ok text
  | .none => .error (.invalidArgument (.missing parameter.name))

/-- Read a parameter if it is present. -/
def optional {α : Type} (parameters : Parameters) (parameter : Parameter)
    (read : String → Except Error α) : Except Error (Option α) :=
  match parameters.present? parameter with
  | .none => .ok .none
  | some text => (read text).map some

end Parameters

end SessionRegistry
