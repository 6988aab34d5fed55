import OwnerKeys.Certificate.ExtensionText.Basic

/-!
# Extensions about public logs

A log of certificates confirms with a signed timestamp that it has seen a certificate. The
timestamps are a list of byte strings, each after its length.
-/

namespace OwnerKeys.Extension

open Asn1 Layout

/-- What a log confirms. -/
inductive LogStamp where
  /-- A timestamp of the first version: the number of the log, the milliseconds since 1970, further
  data, the name of the way to sign, and the signature. -/
  | first (log : Bytes) (time : Nat) (extensions : Bytes) (scheme : String) (signature : Bytes)
  /-- A timestamp of another version. -/
  | unknown (bytes : Bytes)
deriving DecidableEq, Repr

/-- The byte string at the front of another after its length in two bytes, and what follows. -/
def framed? : Bytes → Option (Bytes × Bytes)
  | high :: low :: rest =>
    let size := natOfBytes [high, low]
    if size ≤ rest.length then some (rest.take size, rest.drop size) else none
  | _ => none

/-- The byte strings that make up another, each after its length in two bytes. None is empty. -/
def frames? : Bytes → Option (List Bytes)
  | [] => some []
  | [_] => none
  | high :: low :: rest =>
    let size := natOfBytes [high, low]
    if 0 < size ∧ size ≤ rest.length then
      (frames? (rest.drop size)).map (rest.take size :: ·)
    else
      none
termination_by bytes => bytes.length
decreasing_by simp only [List.length_drop, List.length_cons]; omega

/-- The ways to sign, by their two bytes. -/
def signingSchemes : List (Bytes × String) :=
  [([4, 3], "ecdsa-with-SHA256"), ([4, 1], "sha256WithRSAEncryption")]

/-- The number of bytes of the number of a log. -/
def logSize : Nat := 32

/-- The number of bytes of a time. -/
def timeSize : Nat := 8

/-- The timestamp in a byte string. -/
def logStamp? (bytes : Bytes) : Option LogStamp := do
  match bytes with
  | [] => none
  | version :: rest =>
    if version ≠ 0 then return .unknown bytes
    else if rest.length < logSize + timeSize then none
    else
      let (extensions, signed) ← framed? (rest.drop (logSize + timeSize))
      let scheme ← signingSchemes.lookup (signed.take 2)
      let (signature, _) ← framed? (signed.drop 2)
      if signed.length ≤ 4 then none
      else
        return .first (rest.take logSize) (natOfBytes ((rest.drop logSize).take timeSize))
          extensions scheme signature

/-- The greatest number of bytes of a list of timestamps with its length. -/
def maxStampsSize : Nat := 65535

/-- The timestamps in a byte string. -/
def logStamps? (bytes : Bytes) : Option (List LogStamp) := do
  let (content, rest) ← framed? bytes
  if rest = [] ∧ bytes.length ≤ maxStampsSize then
    (← frames? content).mapM logStamp?
  else
    none

/-- The time of a timestamp. A day that no date has is not shown. -/
def timeText (time : Nat) : String :=
  let days := Int.bmod (time / 86400000) 4294967296
  let seconds : Int := days * 86400 + (time % 86400000 / 1000 : Nat)
  let fraction := toString (time % 1000)
  match Moment.shift? ⟨1970, 1, 1, 0, 0, 0⟩ seconds with
  | some moment =>
    moment.text ("." ++ String.ofList (List.replicate (3 - fraction.length) '0') ++ fraction)
  | none => ""

/-- Bytes with more indent after the first sixteen. -/
def stampBytes (indent : Nat) (bytes : Bytes) : String :=
  (":\n" ++ blanks (indent + 16)).intercalate ((rows 16 bytes).map upperHex)

/-- A timestamp as it is shown. -/
def LogStamp.text (indent : Nat) : LogStamp → String
  | .first log time extensions scheme signature =>
    let field (label value : String) : String := "\n" ++ blanks (indent + 4) ++ label ++ value
    blanks indent ++ "Signed Certificate Timestamp:" ++ field "Version   : " "v1 (0x0)" ++
      field "Log ID    : " (stampBytes indent log) ++ field "Timestamp : " (timeText time) ++
      field "Extensions: " (if extensions = [] then "none" else stampBytes indent extensions) ++
      field "Signature : " scheme ++ field "            " (stampBytes indent signature)
  | .unknown bytes =>
    line indent "Signed Certificate Timestamp:" ++ line (indent + 4) "Version   : unknown" ++
      blanks (indent + 16) ++ stampBytes indent bytes

/-- The timestamps of logs. -/
def logStampLines? : ValueReader := fun indent value => do
  let stamps ← logStamps? (← stringOf? .octetString value)
  return Shown.full ("\n".intercalate (stamps.map (LogStamp.text indent)))

end OwnerKeys.Extension
