import SoundLedger.Binary64.Text
import SoundLedger.Path

/-!
# Failures

Everything that can go wrong with a ledger, by cause. Taking a measurement never fails; failures
come from texts that are no coordinates, from files, and from stored rows that make no record.

Each failure has a fixed code, a text, and in most cases a hint on what to do.
-/

namespace SoundLedger

/-- What is wrong with a stored row, or with the rows as a whole. -/
inductive RowFault where
  /-- The row has the identity that stands for none. -/
  | zeroIdentity
  /-- A row in decibels has a second reading. -/
  | strayPeak (peak : Binary64)
  /-- The rows are of another schema. -/
  | foreignSchema (name : String)
  /-- The row has no identity. -/
  | noIdentity
  /-- Two rows have one identity. -/
  | duplicateIdentity
  /-- Any other fault, in words. -/
  | other (reason : String)
deriving DecidableEq

/-- The fault in words. -/
def RowFault.reason : RowFault → String
  | .zeroIdentity => "identity 0 means unset and cannot be stored"
  | .strayPeak peak => "DBSPL row carries peak_or_base " ++ peak.display
  | .foreignSchema name => "unexpected schema '" ++ name ++ "'"
  | .noIdentity => "stored row has no identity"
  | .duplicateIdentity => "duplicate identity"
  | .other reason => reason

/-- Why an operation failed. -/
inductive Failure where
  | fileRead (path : Path) (cause : String)
  | fileWrite (path : Path) (cause : String)
  | directoryCreate (path : Path) (cause : String)
  /-- A text is no JSON document, or not of the expected form. -/
  | malformed (cause : String)
  | invalidCoordinate (text : String)
  | missingUnit (id : Option UInt64)
  | inconsistentRow (id : Option UInt64) (fault : RowFault)
  | identityAssigned (existing : UInt64)
  | ledgerFull (limit : Nat)
  | recordNotFound (id : UInt64)
deriving DecidableEq

namespace Failure

/-- An identity that may be absent, in words. -/
def describeId : Option UInt64 → String
  | some id => "Some(" ++ toString id.toNat ++ ")"
  | none => "None"

/-- The name of the cause. -/
def code : Failure → String
  | .fileRead .. => "FILE_READ_ERROR"
  | .fileWrite .. => "FILE_WRITE_ERROR"
  | .directoryCreate .. => "DIRECTORY_CREATE_ERROR"
  | .malformed _ => "SERIALIZATION_ERROR"
  | .invalidCoordinate _ => "INVALID_DECIMAL"
  | .missingUnit _ => "MISSING_UNIT"
  | .inconsistentRow .. => "INCONSISTENT_ROW"
  | .identityAssigned _ => "IDENTITY_ALREADY_ASSIGNED"
  | .ledgerFull _ => "LEDGER_FULL"
  | .recordNotFound _ => "RECORD_NOT_FOUND"

/-- The text of the failure. -/
def message : Failure → String
  | .fileRead path cause => "Failed to read file: " ++ path.text ++ ": " ++ cause
  | .fileWrite path cause => "Failed to write file: " ++ path.text ++ ": " ++ cause
  | .directoryCreate path cause => "Directory creation failed: " ++ path.text ++ ": " ++ cause
  | .malformed cause => "JSON serialization error: " ++ cause
  | .invalidCoordinate text => "Invalid decimal coordinate: " ++ text
  | .missingUnit id => "Stored row " ++ describeId id ++ " has no measurement unit"
  | .inconsistentRow id fault =>
    "Stored row " ++ describeId id ++ " is inconsistent: " ++ fault.reason
  | .identityAssigned existing => "Record already has identity " ++ toString existing.toNat
  | .ledgerFull limit => "Ledger is full: " ++ toString limit ++ " records"
  | .recordNotFound id => "Record not found: " ++ toString id.toNat

/-- What can be done about the failure, if anything. -/
def suggestion? : Failure → Option String
  | .fileRead .. => some "Check the ledger path and try again."
  | .invalidCoordinate _ => some "Coordinates must be plain decimals such as 38.7 or -9.1."
  | .missingUnit _ | .inconsistentRow .. =>
    some "The ledger file was edited or corrupted; restore it from a backup."
  | .ledgerFull _ => some "Raise max_records in the config or start a new ledger file."
  | .recordNotFound _ => some "Use 'list' to see stored record ids."
  | .fileWrite .. | .directoryCreate .. | .malformed _ | .identityAssigned _ => none

end Failure

end SoundLedger
