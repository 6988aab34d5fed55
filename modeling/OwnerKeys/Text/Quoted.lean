import OwnerKeys.Text.CharacterClass

/-!
# Quoted text

Diagnostics show names in quotes. Quotes and backslashes get a backslash, the usual control
characters have short escapes, and a character that cannot be shown by itself is written as its
code in braces.
-/

namespace OwnerKeys.Quoted

/-- The code of a character in braces. -/
def codeEscape (char : Char) : List Char :=
  "\\u\x7b".toList ++ Nat.toDigits 16 char.toNat ++ ['}']

/-- How a character is written between quotes. -/
def escape (char : Char) : List Char :=
  match char with
  | '"' => ['\\', '"']
  | '\\' => ['\\', '\\']
  | '\n' => ['\\', 'n']
  | '\r' => ['\\', 'r']
  | '\t' => ['\\', 't']
  | '\x00' => ['\\', '0']
  | _ => if CharacterClass.standsAlone char then [char] else codeEscape char

/-- A text in quotes. -/
def quote (text : String) : String :=
  String.ofList ('"' :: text.toList.flatMap escape ++ ['"'])

end OwnerKeys.Quoted
