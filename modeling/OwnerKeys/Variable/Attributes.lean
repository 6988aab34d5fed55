import OwnerKeys.Bytes

/-!
# Attributes of variables

Every variable carries a 32-bit word of attributes. The low eight bits are flags with a meaning;
the other bits are kept as they are.
-/

namespace OwnerKeys

/-- The attribute word of a variable. -/
structure Attributes where
  /-- The word itself. -/
  bits : UInt32
deriving DecidableEq, Repr, Inhabited

namespace Attributes

/-- The attributes that have a meaning. -/
inductive Flag where
  /-- The variable survives a restart. -/
  | nonVolatile
  /-- The variable can be used before the operating system has started. -/
  | bootServiceAccess
  /-- The variable can be used once the operating system has started. -/
  | runtimeAccess
  /-- The variable belongs to the hardware error record. -/
  | hardwareErrorRecord
  /-- Writing needs authentication (the obsolete kind). -/
  | authenticatedWriteAccess
  /-- Writing needs authentication with a time stamp. -/
  | timeBasedAuthenticatedWriteAccess
  /-- Writing adds to the value. -/
  | appendWrite
  /-- Writing needs authentication by an enhanced descriptor. -/
  | enhancedAuthenticatedAccess
deriving DecidableEq, Repr

namespace Flag

/-- All flags, from the lowest bit upwards. -/
def all : List Flag :=
  [nonVolatile, bootServiceAccess, runtimeAccess, hardwareErrorRecord, authenticatedWriteAccess,
    timeBasedAuthenticatedWriteAccess, appendWrite, enhancedAuthenticatedAccess]

/-- The word in which only the bit of a flag is set. -/
def mask : Flag → UInt32
  | nonVolatile => 1
  | bootServiceAccess => 2
  | runtimeAccess => 4
  | hardwareErrorRecord => 8
  | authenticatedWriteAccess => 16
  | timeBasedAuthenticatedWriteAccess => 32
  | appendWrite => 64
  | enhancedAuthenticatedAccess => 128

end Flag

/-- Whether a flag is set. -/
def has (attributes : Attributes) (flag : Flag) : Bool :=
  attributes.bits &&& flag.mask != 0

/-- The attributes with one flag set or cleared and all other bits kept. -/
def assign (attributes : Attributes) (flag : Flag) (value : Bool) : Attributes :=
  if value then ⟨attributes.bits ||| flag.mask⟩ else ⟨attributes.bits &&& ~~~flag.mask⟩

/-- The attributes of every variable that key management writes: the variable survives a restart
and can be used before and after the operating system has started. -/
def standard : Attributes :=
  ⟨Flag.nonVolatile.mask ||| Flag.bootServiceAccess.mask ||| Flag.runtimeAccess.mask⟩

example : standard.bits = 7 := by decide

end Attributes

/-- What a variable holds. -/
structure Value where
  /-- The attributes. -/
  attributes : Attributes
  /-- The data. -/
  data : Bytes
deriving DecidableEq, Repr, Inhabited

end OwnerKeys
