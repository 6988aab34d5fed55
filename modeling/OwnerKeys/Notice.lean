import OwnerKeys.Text.Quoted
import OwnerKeys.ValidationRequest
import OwnerKeys.Variable

/-!
# Notices

While it works, the program tells the operator what it does and what it found odd. Every notice has
a severity, a message and fields; it is shown on one line.
-/

namespace OwnerKeys

/-- How much a notice matters. -/
inductive Severity where
  /-- Something was done. -/
  | info
  /-- Something was odd. -/
  | warning
  /-- Something failed. -/
  | failure
deriving DecidableEq, Repr

/-- The name of a severity, five columns wide. -/
def Severity.label : Severity → String
  | info => " INFO"
  | warning => " WARN"
  | failure => "ERROR"

/-- What the operator is told. -/
inductive Notice where
  /-- A candidate does not look like a certificate. -/
  | notCertificate (file : String)
  /-- No candidate is eligible. -/
  | nothingToDo
  /-- A key list could not be read. -/
  | listUnreadable (var : Variable)
  /-- A pending request has no usable tag. -/
  | tagUnusable (var : Variable)
  /-- A pending list without a tag could not be removed. -/
  | rollbackFailed (var : Variable)
  /-- A request waits for confirmation. -/
  | requestStaged (var : Variable) (length : Nat)
  /-- A new password waits for confirmation. -/
  | passwordStaged
  /-- A change of the validation state waits for confirmation. -/
  | validationStaged (state : Validation)
  /-- There was no request to revoke. -/
  | nothingPending (var : Variable)
  /-- A key list ends in something that is no record. -/
  | listMalformed
  /-- A key is listed as a certificate and is none. -/
  | certificateInvalid
  /-- A key has no form in which it could be exported. -/
  | hashNotExported (index : Nat)
  /-- Keys were exported. -/
  | keysExported (count : Nat) (directory : String)
deriving DecidableEq, Repr

namespace Notice

/-- The severity of a notice. -/
def severity : Notice → Severity
  | notCertificate _ | listUnreadable _ | tagUnusable _ | listMalformed | certificateInvalid =>
    .warning
  | rollbackFailed _ => .failure
  | nothingToDo | requestStaged .. | passwordStaged | validationStaged _ | nothingPending _
  | hashNotExported _ | keysExported .. => .info

/-- The message of a notice. -/
def message : Notice → String
  | notCertificate _ => "not a valid x509 certificate in DER format"
  | nothingToDo => "no eligible keys, nothing to do"
  | listUnreadable _ => "failed to read key list, treating as empty"
  | tagUnusable _ => "pending request has a missing or malformed tag"
  | rollbackFailed _ => "failed to roll back pending list"
  | requestStaged .. => "request staged"
  | passwordStaged => "password change staged"
  | validationStaged _ => "validation change staged"
  | nothingPending _ => "no pending request"
  | listMalformed => "key list is malformed, ignoring trailing data"
  | certificateInvalid => "invalid X509 certificate"
  | hashNotExported _ => "not exporting hash entry"
  | keysExported .. => "exported enrolled keys"

/-- The fields of a notice with the texts of their values. -/
def fields : Notice → List (String × String)
  | notCertificate file => [("file", Quoted.quote file)]
  | listUnreadable var | tagUnusable var | rollbackFailed var | nothingPending var =>
    [("var", var.name)]
  | requestStaged var length => [("var", var.name), ("len", toString length)]
  | validationStaged state => [("state", state.name)]
  | hashNotExported index => [("index", toString index)]
  | keysExported count directory => [("count", toString count), ("dir", directory)]
  | nothingToDo | passwordStaged | listMalformed | certificateInvalid => []

/-- The line on which a notice is shown. -/
def line (notice : Notice) : String :=
  notice.severity.label ++ " " ++ notice.message ++
    String.join (notice.fields.map fun (name, value) => " " ++ name ++ "=" ++ value)

end Notice

end OwnerKeys
