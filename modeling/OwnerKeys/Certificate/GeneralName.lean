import OwnerKeys.Certificate.Name
import OwnerKeys.Certificate.QuotedName

/-!
# General names

Extensions name people and machines in several ways: by an address, by a name in a directory, by an
identifier. A general name is shown as a label and a value. There are two such forms: the one for
lists does without names that cannot be shown in full, and the one for single lines shows what it
can.
-/

namespace OwnerKeys

open Asn1

/-- A name of one of several kinds. -/
inductive GeneralName where
  /-- A value whose meaning an object fixes. -/
  | other (object : Bytes) (value : Element)
  /-- A mail address. -/
  | mail (text : Bytes)
  /-- The name of a machine. -/
  | machine (text : Bytes)
  /-- A mail address in an old form, which is not shown. -/
  | oldMail
  /-- A name in a directory. -/
  | directory (name : List NameAttribute)
  /-- A party in the exchange of data, which is not shown. -/
  | party
  /-- The location of a resource. -/
  | resource (text : Bytes)
  /-- The address of a machine. -/
  | address (bytes : Bytes)
  /-- An object. -/
  | registered (object : Bytes)
deriving DecidableEq, Repr

/-- A label with a value. -/
structure Labeled where
  /-- The label. -/
  label : String
  /-- The value. -/
  value : String
deriving DecidableEq, Repr

/-- A label and a value as they are shown. -/
def Labeled.text (labeled : Labeled) : String :=
  labeled.label ++ ":" ++ labeled.value

namespace GeneralName

/-- The other name whose fields are given: an object, and a value that is wrapped. -/
def otherOf? (element : Element) : Option GeneralName := do
  match ← element.children? with
  | [object, wrapped] =>
    let value ← Certificate.wrapped? (.context 0) wrapped
    if isAnyValue value then return .other (← Certificate.objectOf? object) value else none
  | _ => none

/-- The numbers of the tags that the text of a name in a directory may have. -/
def directoryTags : List Nat := [12, 19, 20, 28, 30]

/-- Whether an element is a text of a name in a directory. -/
def isDirectoryText (element : Element) : Bool :=
  element.tag.cls = .universal && element.tag.number ∈ directoryTags && isAnyValue element

/-- Whether an element wraps a text of a name in a directory. -/
def wrapsDirectoryText (tag : Tag) (element : Element) : Bool :=
  match Certificate.wrapped? tag element with
  | some inner => isDirectoryText inner
  | none => false

/-- The party whose fields are given: who assigned the name, which may be missing, and the name. -/
def partyOf? (element : Element) : Option GeneralName := do
  let (assigner, rest) := Certificate.takeOptional (.context 0) (← element.children?)
  match rest with
  | [name] =>
    if wrapsDirectoryText (.context 1) name ∧ assigner.all (wrapsDirectoryText (.context 0)) then
      some .party
    else
      none
  | _ => none

/-- The general name in an element. The number of the tag says of which kind it is. -/
def ofElement? (element : Element) : Option GeneralName := do
  if element.tag.cls ≠ .context then none
  else
    match element.tag.number with
    | 0 => otherOf? element
    | 1 => return .mail (← element.string?)
    | 2 => return .machine (← element.string?)
    | 3 => if element.constructed then some .oldMail else none
    | 4 => return .directory (← Certificate.nameOf? (← Certificate.wrapped? (.context 4) element))
    | 5 => partyOf? element
    | 6 => return .resource (← element.string?)
    | 7 => return .address (← element.string?)
    | 8 =>
      let object ← element.primitive?
      let _ ← objectParts? object
      return .registered object
    | _ => none

/-- The general names in the content of an element. -/
def ofContent? (element : Element) : Option (List GeneralName) := do
  (← elements? element.content).mapM ofElement?

/-- A text of a name. One with a zero byte cannot be shown. -/
def plainText? (text : Bytes) : Option String :=
  if 0 ∈ text then none else some (Layout.lossyText text)

/-- A number in upper-case digits to base 16. -/
def upperDigits (number : Nat) : String :=
  (Layout.hexDigits number).map Char.toUpper

/-- The address of a machine: four bytes in decimal, or eight pairs of bytes to base 16. -/
def addressText (bytes : Bytes) : String :=
  if bytes.length = 4 then
    ".".intercalate (bytes.map fun byte => toString byte.toNat)
  else if bytes.length = 16 then
    ":".intercalate ((Layout.rows 2 bytes).map fun pair => upperDigits (natOfBytes pair))
  else
    s!"<invalid length={bytes.length}>"

/-- What another name is called whose value is a text of one kind. -/
structure OtherLabel where
  /-- The arcs of the object. -/
  arcs : List Nat
  /-- The tag of the text. -/
  tag : Tag
  /-- The label. -/
  label : String
deriving DecidableEq, Repr

/-- The other names whose values are texts. -/
def otherLabels : List OtherLabel :=
  [⟨[1, 3, 6, 1, 5, 5, 7, 8, 9], .utf8String, "SmtpUTF8Mailbox"⟩,
    ⟨[1, 3, 6, 1, 5, 5, 7, 8, 5], .utf8String, "XmppAddr"⟩,
    ⟨[1, 3, 6, 1, 5, 5, 7, 8, 7], .ia5String, "SRVName"⟩,
    ⟨[1, 3, 6, 1, 5, 5, 7, 8, 8], .utf8String, "NAIRealm"⟩,
    ⟨[1, 3, 6, 1, 4, 1, 311, 20, 2, 3], .utf8String, "UPN"⟩]

/-- The label of another name by its object, if its value is a text. -/
def otherLabel? (object : Bytes) : Option OtherLabel := do
  let arcs ← objectArcs? object
  otherLabels.find? (·.arcs == arcs)

/-- What is shown for a value that cannot be shown. -/
def unsupported : String := "<unsupported>"

/-- Another name as it is shown in a list. -/
def otherInList? (object : Bytes) (value : Element) : Option Labeled := do
  match otherLabel? object with
  | some known =>
    if value.tag = known.tag then
      return ⟨"othername: " ++ known.label, ← plainText? (← value.string?)⟩
    else
      none
  | none =>
    let name := ObjectName.cut ObjectName.wideRoom (ObjectName.longName object)
    let label := if name.isEmpty then "othername" else "othername: " ++ name
    let shown := if value.tag = .ia5String ∨ value.tag = .utf8String then
      value.string?.bind plainText? else none
    return ⟨label, shown.getD unsupported⟩

/-- A general name as it is shown in a list. -/
def labeled? : GeneralName → Option Labeled
  | other object value => otherInList? object value
  | mail text => (plainText? text).map (⟨"email", ·⟩)
  | machine text => (plainText? text).map (⟨"DNS", ·⟩)
  | oldMail => some ⟨"X400Name", unsupported⟩
  | directory name => some ⟨"DirName", NameAttribute.slashed ObjectName.wideRoom name⟩
  | party => some ⟨"EdiPartyName", unsupported⟩
  | resource text => (plainText? text).map (⟨"URI", ·⟩)
  | address bytes => some ⟨"IP Address", addressText bytes⟩
  | registered object =>
    some ⟨"Registered ID", ObjectName.cut ObjectName.wideRoom (ObjectName.longName object)⟩

/-- Another name as it is shown on a line. -/
def otherOnLine (object : Bytes) (value : Element) : Labeled :=
  match otherLabel? object with
  | some known =>
    if value.tag = known.tag then
      ⟨"othername", known.label ++ ":" ++ Layout.endedText (value.string?.getD [])⟩
    else
      ⟨"othername", unsupported⟩
  | none => ⟨"othername", unsupported⟩

/-- A general name as it is shown on a line. -/
def onLine : GeneralName → Labeled
  | other object value => otherOnLine object value
  | mail text => ⟨"email", Layout.printable text⟩
  | machine text => ⟨"DNS", Layout.printable text⟩
  | oldMail => ⟨"X400Name", unsupported⟩
  | directory name => ⟨"DirName", NameAttribute.quotedText name⟩
  | party => ⟨"EdiPartyName", unsupported⟩
  | resource text => ⟨"URI", Layout.printable text⟩
  | address bytes => ⟨"IP Address", addressText bytes⟩
  | registered object => ⟨"Registered ID", ObjectName.fullName object⟩

/-- The text of a general name on a line. -/
def lineText (name : GeneralName) : String :=
  name.onLine.text

end GeneralName

end OwnerKeys
