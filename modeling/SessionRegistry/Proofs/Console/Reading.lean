import SessionRegistry.Console.Reading
import SessionRegistry.Proofs.Text.Decimal

/-!
# Parameters that are read as they were written

A text that is given as a parameter is read without the blank characters at its ends, and a decimal
number is read as that number.

## Main results

* `Parameters.require_of_text`, `Parameters.optional_branchId_of_text`: what is read from a text.
-/

namespace SessionRegistry

namespace Parameters

variable {ps : Parameters} {parameter : Parameter} {text : String}

/-- A parameter that is given is read without the blank characters at its ends, and a blank one
counts as none. -/
theorem present?_of_text (given : ps.text? parameter = some text) :
    ps.present? parameter = if Text.trim text = "" then .none else some (Text.trim text) := by
  rw [present?, given]
  rfl

/-- A parameter that the request cannot do without is missing exactly if it is blank. -/
theorem require_of_text (given : ps.text? parameter = some text) :
    ps.require parameter =
      if Text.trim text = "" then .error (.invalidArgument (.missing parameter.name))
      else .ok (Text.trim text) := by
  rw [require, present?_of_text given]
  by_cases blank : Text.trim text = ""
  · rw [if_pos blank, if_pos blank]
  · rw [if_neg blank, if_neg blank]

/-- The number of a branch is read back. -/
theorem optional_branchId_of_text {id : BranchId}
    (given : ps.text? parameter = some (toString id.toNat)) :
    ps.optional parameter readBranchId = .ok (some id) := by
  have trimmed := Text.isTrimmed_toString id.toNat
  rw [optional, present?_of_text given, trimmed.trim_eq, if_neg trimmed.ne_empty]
  dsimp only
  rw [readBranchId, Text.readUInt64_toString]
  rfl

end Parameters

end SessionRegistry
