import OwnerKeys.Bytes

/-!
# Lines of input

Input is read line by line. A line ends after a line feed or at the end of the input. Its text is
what it spells in UTF-8 without any line feeds and carriage returns at its end; a line that is no
UTF-8 is an error, and is used up all the same.
-/

namespace OwnerKeys.Lines

/-- What is found when a line is read. -/
inductive Line where
  /-- The text of the line, without its end. -/
  | text (content : String)
  /-- The line is no text in UTF-8. -/
  | invalid
deriving DecidableEq, Repr

/-- The wording of the error for a line that is no text. -/
def invalidMessage : String :=
  "stream did not contain valid UTF-8"

/-- The byte that ends a line. -/
def lineFeed : UInt8 := 10

/-- The first line of the input with the line feed that ends it, and the bytes after it. -/
def split (input : Bytes) : Bytes × Bytes :=
  let before := input.takeWhile (· ≠ lineFeed)
  match input.dropWhile (· ≠ lineFeed) with
  | [] => (before, [])
  | ending :: rest => (before ++ [ending], rest)

/-- A text without the line feeds and carriage returns at its end. -/
def trimEnd (text : String) : String :=
  String.ofList (text.toList.reverse.dropWhile fun char => char = '\n' ∨ char = '\r').reverse

/-- What the bytes of a line say. -/
def ofBytes (bytes : Bytes) : Line :=
  match Bytes.toString? bytes with
  | some text => .text (trimEnd text)
  | none => .invalid

/-- The next line of the input and the bytes after it, or nothing at the end of the input. -/
def next? (input : Bytes) : Option (Line × Bytes) :=
  match input with
  | [] => none
  | _ :: _ => some (ofBytes (split input).1, (split input).2)

theorem split_append (input : Bytes) : (split input).1 ++ (split input).2 = input := by
  have whole := List.takeWhile_append_dropWhile (p := (· ≠ lineFeed)) (l := input)
  unfold split
  simp only
  split
  · rename_i empty
    rw [empty] at whole
    exact whole
  · rename_i ending rest found
    rw [found] at whole
    simpa using whole

/-- Reading a line makes the input shorter. -/
theorem length_lt_of_next {input rest : Bytes} {line : Line}
    (read : next? input = some (line, rest)) : rest.length < input.length := by
  match input, read with
  | byte :: later, read =>
    simp only [next?, Option.some.injEq, Prod.mk.injEq] at read
    have whole := congrArg List.length (split_append (byte :: later))
    rw [List.length_append, read.2] at whole
    have first : 0 < (split (byte :: later)).1.length := by
      unfold split
      simp only
      split
      · rename_i empty
        have taken := List.takeWhile_append_dropWhile (p := (· ≠ lineFeed)) (l := byte :: later)
        rw [empty, List.append_nil] at taken
        rw [taken]
        simp
      · simp
    omega

/-- All lines of the input. -/
def all (input : Bytes) : List Line :=
  match _read : next? input with
  | none => []
  | some (line, rest) => line :: all rest
termination_by input.length
decreasing_by exact length_lt_of_next _read

end OwnerKeys.Lines
