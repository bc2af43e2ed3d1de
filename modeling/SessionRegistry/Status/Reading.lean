import SessionRegistry.Error
import SessionRegistry.Text.Basic

/-!
# Reading a status

A status is written as its numeric code or as its name in any letter case, with blank characters
around it. A text that is a 32-bit integer is always taken as a code. The statuses of sessions and
those of branches are read in the same way, by their own codes and names.
-/

namespace SessionRegistry

/-- How the statuses of one kind are named and coded. -/
structure Nomenclature (σ : Type) where
  all : List σ
  name : σ → String
  code : σ → Nat
  mem_all : ∀ status, status ∈ all
  nodup_codes : (all.map code).Nodup
  /-- Two names differ in more than the case of their letters. -/
  nodup_names : (all.map fun status => Text.lowerASCII (name status)).Nodup
  /-- A code is positive and has less than 32 bits. -/
  code_range : ∀ status, 0 < code status ∧ code status < Nat.pow 2 31
  name_ne_empty : ∀ status, name status ≠ ""
  /-- A name consists of letters. -/
  letters : ∀ status, ∀ c ∈ (Text.lowerASCII (name status)).toList, c.isLower = true

namespace Nomenclature

variable {σ : Type}

/-- The status with a numeric code. -/
def ofCode? (kind : Nomenclature σ) (code : Int) : Option σ :=
  kind.all.find? fun status => (kind.code status : Int) == code

/-- The status with a name, in any case of its letters. -/
def ofName? (kind : Nomenclature σ) (name : String) : Option σ :=
  kind.all.find? fun status => Text.sameUpToCase (kind.name status) name

/-- Read a status by its code or its name, and tell why there is none. -/
def read (kind : Nomenclature σ) (whenCode : Int → Unreadable) (whenName : String → Unreadable)
    (text : String) : Except Error σ :=
  let trimmed := Text.trim text
  match Text.readInt 32 trimmed with
  | some code =>
    match kind.ofCode? code with
    | some status => .ok status
    | none => .error (.invalidArgument (.unreadable (whenCode code)))
  | none =>
    match kind.ofName? trimmed with
    | some status => .ok status
    | none => .error (.invalidArgument (.unreadable (whenName trimmed)))

end Nomenclature

namespace GlobalStatus

/-- The statuses of sessions. -/
def nomenclature : Nomenclature GlobalStatus where
  all := all
  name := name
  code := code
  mem_all := mem_all
  nodup_codes := by decide
  nodup_names := by decide +kernel
  code_range status := by cases status <;> decide
  name_ne_empty status := by cases status <;> decide
  letters status := List.all_eq_true.1 (by cases status <;> decide +kernel)

/-- Read the status of a session. -/
def ofText : String → Except Error GlobalStatus :=
  nomenclature.read .globalCode .globalName

end GlobalStatus

namespace BranchStatus

/-- The statuses of branches. -/
def nomenclature : Nomenclature BranchStatus where
  all := all
  name := name
  code := code
  mem_all := mem_all
  nodup_codes := by decide
  nodup_names := by decide +kernel
  code_range status := by cases status <;> decide
  name_ne_empty status := by cases status <;> decide
  letters status := List.all_eq_true.1 (by cases status <;> decide +kernel)

/-- Read the status of a branch. -/
def ofText : String → Except Error BranchStatus :=
  nomenclature.read .branchCode .branchName

end BranchStatus

end SessionRegistry
