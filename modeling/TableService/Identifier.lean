/-
  Identifiers: names that may stand in a statement.

  * An `Identifier` is not empty, has no NUL and at most 128 bytes: its name is `Valid`.
  * `Identifier.check` admits exactly these names (`check_ok_iff`); the first rule that is broken is
    reported.
-/
import TableService.Error
import TableService.Text.Quoted

namespace TableService

/-- The greatest number of bytes of an identifier, whatever the engine. -/
def maxIdentifierBytes : Nat := 128

/-- A name that can be quoted. -/
structure Identifier where
  name : String
  nonempty : name ≠ ""
  noNul : '\x00' ∉ name.toList
  fits : name.utf8ByteSize ≤ maxIdentifierBytes
  deriving DecidableEq

namespace Identifier

/-- Why a name is no identifier. -/
inductive Fault where
  | empty
  | nul (name : String)
  | tooLong (name : String)
  deriving DecidableEq, Repr

/-- The text of a fault. -/
def Fault.message : Fault → String
  | .empty => "Identifier cannot be empty"
  | .nul name => "Identifier contains null byte: " ++ Text.quoted name
  | .tooLong name => "Identifier exceeds maximum length of 128 bytes: " ++ Text.quoted name

/-- A name as an identifier. -/
def check (name : String) : Except Fault Identifier :=
  if nonempty : name = "" then .error .empty
  else if noNul : '\x00' ∈ name.toList then .error (.nul name)
  else if fits : name.utf8ByteSize ≤ maxIdentifierBytes then .ok ⟨name, nonempty, noNul, fits⟩
  else .error (.tooLong name)

theorem name_of_check {name : String} {i : Identifier} (h : check name = .ok i) :
    i.name = name := by
  unfold check at h
  split at h
  · cases h
  · split at h
    · cases h
    · split at h
      · cases h
        rfl
      · cases h

/-- The name can be quoted. -/
def Valid (name : String) : Prop :=
  name ≠ "" ∧ '\x00' ∉ name.toList ∧ name.utf8ByteSize ≤ 128

/-- **The names that are admitted** are the valid ones. -/
theorem check_ok_iff {name : String} : (∃ i, check name = .ok i) ↔ Valid name := by
  constructor
  · rintro ⟨i, h⟩
    rw [← name_of_check h]
    exact ⟨i.nonempty, i.noNul, i.fits⟩
  · rintro ⟨nonempty, noNul, fits⟩
    refine ⟨⟨name, nonempty, noNul, fits⟩, ?_⟩
    rw [check, dif_neg nonempty, dif_neg noNul]
    exact dif_pos fits

/-- The name of a column that every table has. -/
def id : Identifier := ⟨"id", by decide, by decide, by decide⟩

end Identifier

end TableService
