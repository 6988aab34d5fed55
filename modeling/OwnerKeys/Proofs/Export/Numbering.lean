import OwnerKeys.Export
import OwnerKeys.Proofs.Store.Efivars

/-!
# The numbers of exported keys

The file of a key is named by its number, in decimal and with zeros in front of short numbers. The
number can be read off the name, so keys with different numbers have files of different names, also
where a number has more than four digits; and none of these names is that of the file of a variable.
-/

namespace OwnerKeys.Export

theorem toList_fourDigits (number : Nat) :
    (fourDigits number).toList =
      List.replicate (4 - (Nat.toDigits 10 number).length) '0' ++ Nat.toDigits 10 number := by
  rw [fourDigits, String.toList_ofList]

/-- The digits are those of the number. -/
theorem ofDigitChars_fourDigits (number : Nat) :
    Nat.ofDigitChars 10 (fourDigits number).toList 0 = number := by
  rw [toList_fourDigits, Nat.ofDigitChars_append, Nat.ofDigitChars_replicate_zero]
  simp [Nat.ofDigitChars_toDigits]

theorem fourDigits_inj {number other : Nat} (same : fourDigits number = fourDigits other) :
    number = other := by
  rw [← ofDigitChars_fourDigits number, same, ofDigitChars_fourDigits]

/-- There are four digits, or as many as the number needs. -/
theorem length_fourDigits (number : Nat) :
    (fourDigits number).toList.length = max 4 (Nat.toDigits 10 number).length := by
  rw [toList_fourDigits, List.length_append, List.length_replicate]
  omega

theorem isDigit_of_mem_fourDigits {number : Nat} {char : Char}
    (mem : char ∈ (fourDigits number).toList) : char.isDigit = true := by
  rw [toList_fourDigits, List.mem_append] at mem
  rcases mem with zero | digit
  · rw [List.eq_of_mem_replicate zero]
    rfl
  · exact Nat.isDigit_of_mem_toDigits (by decide) (by decide) digit

theorem toList_fileName (index : Nat) :
    (fileName index).toList =
      ['M', 'O', 'K', '-'] ++ (fourDigits index).toList ++ ['.', 'd', 'e', 'r'] := by
  have front : "MOK-".toList = ['M', 'O', 'K', '-'] := by decide
  have back : ".der".toList = ['.', 'd', 'e', 'r'] := by decide
  rw [fileName, String.toList_append, String.toList_append, front, back]

/-- The name of a file tells the number of the key. -/
theorem fileName_inj {index other : Nat} (same : fileName index = fileName other) :
    index = other := by
  have sameChars := congrArg String.toList same
  rw [toList_fileName, toList_fileName] at sameChars
  have sameDigits := List.append_cancel_left (List.append_cancel_right sameChars)
  exact fourDigits_inj (String.toList_inj.mp sameDigits)

theorem isEntry_fileName (index : Nat) : FileTree.IsEntry (fileName index) := by
  apply FileTree.IsEntry.of_long
  · rw [toList_fileName, List.mem_append, List.mem_append]
    rintro ((front | digit) | back)
    · revert front
      decide
    · have isDigit := isDigit_of_mem_fourDigits digit
      revert isDigit
      decide
    · revert back
      decide
  · rw [toList_fileName, List.length_append, List.length_append, length_fourDigits]
    simp

/-- The path of the file of a key. -/
def path (directory : String) (index : Nat) : String :=
  FileTree.join directory (fileName index)

/-- In one directory, different keys have different paths. -/
theorem path_inj {directory : String} {index other : Nat}
    (same : path directory index = path directory other) : index = other := by
  have sameNames := congrArg FileTree.names same
  rw [path, path, FileTree.names_join directory (isEntry_fileName index),
    FileTree.names_join directory (isEntry_fileName other)] at sameNames
  have sameLast := List.append_cancel_left sameNames
  rw [List.cons.injEq] at sameLast
  exact fileName_inj sameLast.1

/-- No file of a key is named like the file of a variable, for the text of a vendor does not end
like the name of a certificate. -/
theorem fileName_ne_variable (index : Nat) (var : Variable) :
    fileName index ≠ Efivars.fileName var := by
  intro same
  have last : (fileName index).toList.getLast? = some 'r' := by
    rw [toList_fileName, List.getLast?_append]
    rfl
  rw [same, Efivars.toList_fileName,
    List.getLast?_append_of_ne_nil _ (List.cons_ne_nil _ _)] at last
  rcases List.mem_cons.mp (List.mem_of_getLast? last) with isDash | inText
  · exact absurd isDash (by decide)
  · rcases Guid.dash_or_digit inText with isDash | ⟨digit, _, isDigit⟩
    · exact absurd isDash (by decide)
    · exact Nat.digitChar_ne 'r' rfl isDigit.symm

end OwnerKeys.Export
