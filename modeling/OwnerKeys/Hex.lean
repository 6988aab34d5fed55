import OwnerKeys.Bytes

/-!
# Hexadecimal text

Two digits per byte, the high half first. Printing uses lower-case digits; reading takes digits of
either case.
-/

namespace OwnerKeys.Hex

/-- The two digits of a byte. -/
def ofByte (byte : UInt8) : List Char :=
  [Nat.digitChar (byte.toNat / 16), Nat.digitChar (byte.toNat % 16)]

/-- The digits of a byte string, without separators. -/
def ofBytes (bytes : Bytes) : List Char :=
  bytes.flatMap ofByte

/-- The digits of a byte string as a text, without separators. -/
def text (bytes : Bytes) : String :=
  String.ofList (ofBytes bytes)

/-- The digits of a byte string as a text, with a colon between two bytes. -/
def colonText (bytes : Bytes) : String :=
  ":".intercalate (bytes.map fun byte => String.ofList (ofByte byte))

/-- The value of an ASCII digit of either case. -/
def value? (digit : UInt8) : Option Nat :=
  if 48 ≤ digit ∧ digit ≤ 57 then some (digit.toNat - 48)
  else if 97 ≤ digit ∧ digit ≤ 102 then some (digit.toNat - 87)
  else if 65 ≤ digit ∧ digit ≤ 70 then some (digit.toNat - 55)
  else none

/-- The byte that two ASCII digits spell. -/
def pair? (high low : UInt8) : Option UInt8 := do
  let highValue ← value? high
  let lowValue ← value? low
  return UInt8.ofNat (16 * highValue + lowValue)

@[simp]
theorem length_ofByte (byte : UInt8) : (ofByte byte).length = 2 := rfl

@[simp]
theorem length_ofBytes (bytes : Bytes) : (ofBytes bytes).length = 2 * bytes.length := by
  induction bytes with
  | nil => rfl
  | cons byte rest ih =>
      simp only [ofBytes, List.flatMap_cons, List.length_append, length_ofByte,
        List.length_cons] at ih ⊢
      omega

end OwnerKeys.Hex
