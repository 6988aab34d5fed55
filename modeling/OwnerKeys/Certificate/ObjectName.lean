import OwnerKeys.Certificate.Layout
import OwnerKeys.Certificate.ObjectName.Assorted
import OwnerKeys.Certificate.ObjectName.Directory
import OwnerKeys.Certificate.ObjectName.Elliptic
import OwnerKeys.Certificate.ObjectName.Federal
import OwnerKeys.Certificate.ObjectName.Internet
import OwnerKeys.Certificate.ObjectName.National
import OwnerKeys.Certificate.ObjectName.Payment
import OwnerKeys.Certificate.ObjectName.Pkcs
import OwnerKeys.Certificate.ObjectName.TrustedPlatform

/-!
# The registry of object names

An object is looked up by its identifier. Where there is little room for its name, the name is cut.
An identifier that is too long to be written by its arcs has no text at all.
-/

namespace OwnerKeys.ObjectName

open Asn1

/-- Every object that has names. -/
def all : List ObjectName :=
  [directory, pkcs, internet, federal, elliptic, national, trustedPlatform, payment,
    assorted].flatten

/-- The names of the object with a given identifier. -/
def find? (object : Bytes) : Option ObjectName := do
  let arcs ← objectArcs? object
  all.find? (·.arcs == arcs)

/-- An identifier by its arcs. -/
def dotted (object : Bytes) : String :=
  if maxObjectSize < object.length then ""
  else
    match objectArcs? object with
    | some arcs => arcsText arcs
    | none => ""

/-- The long name of an object, or its arcs. -/
def longName (object : Bytes) : String :=
  match find? object with
  | some name => name.long
  | none => dotted object

/-- The long name of an object, or a word that says that it has none. -/
def knownName (object : Bytes) : String :=
  match find? object with
  | some name => name.long
  | none => "undefined"

/-- The short name of an object, or its arcs. -/
def shortName (object : Bytes) : String :=
  match find? object with
  | some name => name.short
  | none => dotted object

/-- The front of a text that fits into a room. -/
def cut (room : Nat) (text : String) : String :=
  String.ofList (text.toList.take room)

/-- The room for an object in a list or in a name. -/
def narrowRoom : Nat := 79

/-- The room for an object that is itself a name. -/
def wideRoom : Nat := 255

/-- The long name of an object, or its arcs, cut to a narrow room. -/
def narrowName (object : Bytes) : String :=
  cut narrowRoom (longName object)

/-- The type of an attribute as it is shown before the value. -/
def typeName (object : Bytes) : String :=
  cut narrowRoom (shortName object)

/-- An object as it is shown by itself. One that has no text is shown byte by byte. -/
def fullName (object : Bytes) : String :=
  let name := longName object
  if name.isEmpty then "<INVALID>" ++ Layout.table object else name

end OwnerKeys.ObjectName
