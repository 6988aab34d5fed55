import OwnerKeys.Certificate.ExtensionText.Basic

/-!
# Extensions about resources of the network

Which addresses and which autonomous systems a holder may speak for. Either list may be inherited
from the issuer.
-/

namespace OwnerKeys.Extension

open Asn1 Layout

/-- Addresses that belong together. -/
inductive AddressSpan where
  /-- All addresses that start with some bits. -/
  | network (front : BitString)
  /-- All addresses between two, whose last bits are left out. -/
  | range (least greatest : BitString)
deriving DecidableEq, Repr

/-- The addresses in an element. -/
def addressSpan? (element : Element) : Option AddressSpan := do
  if element.tag = .bitString then
    return .network (← bitsIn? element)
  else
    match ← Certificate.sequence? element with
    | [least, greatest] =>
      return .range (← Certificate.bitStringOf? .bitString least)
        (← Certificate.bitStringOf? .bitString greatest)
    | _ => none

/-- Addresses of one family. -/
structure AddressFamily where
  /-- The code of the family, and perhaps a byte that says what the addresses are used for. -/
  code : Bytes
  /-- The addresses, unless they are inherited. -/
  spans : Option (List AddressSpan)
deriving DecidableEq, Repr

/-- A list in an element, or an empty value if the list is inherited. -/
def inheritable? {Item : Type} (read : Element → Option Item) (element : Element) :
    Option (Option (List Item)) :=
  if element.tag = .null then (nullOf? element).map fun _ => none
  else do return some (← (← Certificate.series? .sequence element).mapM read)

/-- The addresses of one family in an element. -/
def addressFamily? (element : Element) : Option AddressFamily := do
  match ← Certificate.sequence? element with
  | [code, spans] =>
    return ⟨← stringOf? .octetString code, ← inheritable? addressSpan? spans⟩
  | _ => none

namespace AddressFamily

/-- The number of a family, which takes two bytes. -/
def number (family : AddressFamily) : Nat :=
  if family.code.length < 2 then 0 else natOfBytes (family.code.take 2)

/-- The name of a family. -/
def name (family : AddressFamily) : String :=
  if family.number = 1 then "IPv4"
  else if family.number = 2 then "IPv6"
  else s!"Unknown AFI {family.number}"

/-- What addresses are used for, by the third byte of the code. -/
def uses : List (UInt8 × String) :=
  [(1, "Unicast"), (2, "Multicast"), (3, "Unicast/Multicast"), (4, "MPLS"), (64, "Tunnel"),
    (65, "VPLS"), (66, "BGP MDT"), (128, "MPLS-labeled VPN")]

/-- What the addresses of a family are used for, if the code says so. -/
def useText (family : AddressFamily) : String :=
  match family.code.drop 2 with
  | use :: _ => " (" ++ (uses.lookup use).getD s!"Unknown SAFI {use.toNat}" ++ ")"
  | [] => ""

/-- The bytes of an address that starts with some bits. The others are all zeros or all ones. -/
def expanded? (size : Nat) (fill : UInt8) (front : BitString) : Option Bytes :=
  if size < front.bytes.length then none
  else
    let free := UInt8.ofNat (Nat.pow 2 front.unused - 1) &&& fill
    let whole := match front.bytes.getLast? with
      | some last => front.bytes.dropLast ++ [last ||| free]
      | none => []
    some (whole ++ List.replicate (size - whole.length) fill)

/-- An address of sixteen bytes, in pairs to base 16. The zeros at the end are left out. -/
def longAddress (bytes : Bytes) : String :=
  let pairs := (rows 2 bytes).map natOfBytes
  let shown := (pairs.reverse.dropWhile (· = 0)).reverse
  String.join (shown.zipIdx.map fun (pair, position) =>
    hexDigits pair ++ if position < 7 then ":" else "") ++
    (if shown.length < 8 then ":" else "") ++ (if shown = [] then ":" else "")

/-- An address of a family as it is shown. One with too many bits cannot be shown. -/
def addressText? (family : AddressFamily) (fill : UInt8) (front : BitString) : Option String :=
  if family.number = 1 then
    (expanded? 4 fill front).map GeneralName.addressText
  else if family.number = 2 then
    (expanded? 16 fill front).map longAddress
  else
    some (Hex.colonText front.bytes ++ "[" ++ toString front.unused ++ "]")

/-- An address of a family with a text after it. -/
def addressShown (family : AddressFamily) (fill : UInt8) (front : BitString) (after : String) :
    Shown :=
  match family.addressText? fill front with
  | some text => Shown.full (text ++ after)
  | none => Shown.broken ""

/-- Addresses of a family as they are shown. -/
def spanShown (family : AddressFamily) (indent : Nat) : AddressSpan → Shown
  | .network front =>
    let size : Int := 8 * front.bytes.length - front.unused
    Shown.join [Shown.oneLine indent "", family.addressShown 0 front s!"/{size}\n"]
  | .range least greatest =>
    Shown.join [Shown.oneLine indent "", family.addressShown 0 least "-",
      family.addressShown 255 greatest "\n"]

/-- The addresses of a family as they are shown. -/
def shown (indent : Nat) (family : AddressFamily) : Shown :=
  let label := blanks indent ++ family.name ++ family.useText
  match family.spans with
  | none => Shown.full (label ++ ": inherit\n")
  | some spans =>
    Shown.join (Shown.full (label ++ ":\n") :: spans.map (family.spanShown (indent + 2)))

end AddressFamily

/-- The addresses for which a holder may speak. -/
def addresses? : ValueReader := fun indent value => do
  let families ← (← Certificate.series? .sequence value).mapM addressFamily?
  return Shown.join (families.map (AddressFamily.shown indent))

/-- The number of a system, or the least and the greatest number of several. -/
def systemText? (element : Element) : Option String := do
  if element.tag = .integer then
    return integerText (← Certificate.integerOf? element)
  else
    match ← Certificate.sequence? element with
    | [least, greatest] =>
      return integerText (← Certificate.integerOf? least) ++ "-" ++
        integerText (← Certificate.integerOf? greatest)
    | _ => none

/-- Systems under a label. -/
def systemLines (indent : Nat) (label : String) (systems : Option (List String)) : String :=
  line indent (label ++ ":") ++
    String.join ((systems.getD ["inherit"]).map (line (indent + 2)))

/-- The systems for which a holder may speak. -/
def systems? : ValueReader := fun indent value => do
  let read := Certificate.wrappedIn? (inheritable? systemText?)
  let fields ← Certificate.sequence? value
  let (numbers, fields) ← Certificate.optionalField (.context 0) read fields
  let (domains, fields) ← Certificate.optionalField (.context 1) read fields
  if fields = [] then
    return Shown.full
      ((numbers.map (systemLines indent "Autonomous System Numbers")).getD "" ++
        (domains.map (systemLines indent "Routing Domain Identifiers")).getD "")
  else
    none

end OwnerKeys.Extension
