import OwnerKeys.Certificate.ExtensionText
import OwnerKeys.Certificate.Moment
import OwnerKeys.Certificate.PublicKey
import OwnerKeys.Certificate.Signature

/-!
# The text of a certificate

A certificate is shown field by field, each under its label, with more indent the deeper it stands.
-/

namespace OwnerKeys.Certificate

open Asn1 Layout

/-- The indent of the fields. -/
def fieldIndent : Nat := 8

/-- The indent of what belongs to a field. -/
def detailIndent : Nat := 12

/-- The indent of what belongs to a detail. -/
def innerIndent : Nat := 16

/-- The line with the version, which is one more than the number that is written. -/
def versionLine (version : Int) : String :=
  if 0 ≤ version ∧ version ≤ 2 then
    line fieldIndent s!"Version: {version + 1} (0x{hexDigits version.toNat})"
  else
    let shown := if isShort version then version else -1
    line fieldIndent s!"Version: Unknown ({shown})"

/-- The lines with the serial number: in decimal and to base 16 if it is small, else byte by
byte. -/
def serialLines (serial : Int) : String :=
  let label := "Serial Number:"
  let size := serial.natAbs
  let sign := if serial < 0 then "-" else ""
  if isShort serial then
    line fieldIndent s!"{label} {serial} ({sign}0x{hexDigits size})"
  else
    line fieldIndent label ++
      line detailIndent ((if serial < 0 then " (Negative)" else "") ++
        Hex.colonText (magnitude size))

/-- An algorithm after a label. -/
def labeledAlgorithm (indent : Nat) (label : String) (algorithm : AlgorithmId) : String :=
  blanks indent ++ label ++ ": " ++ ObjectName.fullName algorithm.object

/-- The lines with the period of validity. -/
def validityLines (certificate : Certificate) : String :=
  line fieldIndent "Validity" ++
    line detailIndent ("Not Before: " ++ Moment.display certificate.notBefore) ++
    line detailIndent ("Not After : " ++ Moment.display certificate.notAfter)

/-- The lines with the public key. -/
def keyLines (info : PublicKeyInfo) : String :=
  line fieldIndent "Subject Public Key Info:" ++
    labeledAlgorithm detailIndent "Public Key Algorithm" info.algorithm ++ "\n" ++
    (match PublicKey.ofInfo? info with
      | some key => key.text innerIndent
      | none => line detailIndent "Unable to load Public Key")

/-- The lines with a number that the issuer or the subject chose. -/
def uniqueIdLines (label : String) : Option BitString → String
  | some bits =>
    blanks fieldIndent ++ label ++ ": " ++ dump detailIndent Signature.perLine bits.bytes
  | none => ""

/-- The lines with the extensions, if there are any. -/
def extensionLines (extensions : List Extension) : String :=
  if extensions = [] then ""
  else
    line fieldIndent "X509v3 extensions:" ++
      String.join (extensions.map (Extension.text detailIndent))

/-- The lines with what was signed. -/
def bodyLines (certificate : Certificate) : String :=
  versionLine (certificate.version.getD 0) ++
    serialLines certificate.serial ++
    labeledAlgorithm fieldIndent "Signature Algorithm" certificate.signature ++
    Signature.lineEnd fieldIndent certificate.signature ++
    line fieldIndent ("Issuer: " ++ NameAttribute.commaText certificate.issuer) ++
    certificate.validityLines ++
    line fieldIndent ("Subject: " ++ NameAttribute.commaText certificate.subject) ++
    keyLines certificate.publicKey ++
    uniqueIdLines "Issuer Unique ID" certificate.issuerId ++
    uniqueIdLines "Subject Unique ID" certificate.subjectId ++
    extensionLines certificate.extensions

/-- The lines with the signature. -/
def signatureLines (certificate : Certificate) : String :=
  labeledAlgorithm 4 "Signature Algorithm" certificate.outerAlgorithm ++ "\n" ++
    blanks 4 ++ "Signature Value:" ++ Signature.lineEnd fieldIndent certificate.outerAlgorithm ++
    Signature.text fieldIndent certificate.outerAlgorithm certificate.outerSignature.bytes

/-- The text of a certificate. -/
def text (certificate : Certificate) : String :=
  "Certificate:\n" ++ line 4 "Data:" ++ certificate.bodyLines ++ certificate.signatureLines

end OwnerKeys.Certificate
