import Mathlib.Data.List.Forall2
import Mathlib.Data.List.TakeWhile
import OwnerKeys.Proofs.Text.Ascii
import OwnerKeys.Text.Lines

/-!
# Reading line by line

The input is a row of segments, each up to a line feed, and reading takes one segment at a time,
whether it is text or not. So bad bytes spoil their own line only, and lines that were written one
after another are read back. That a segment is cut at a byte and not at a character does no harm:
in UTF-8 no other character has the byte of the line feed.
-/

namespace OwnerKeys

namespace Lines

variable {input body rest bytes : Bytes} {segments : List Bytes}

/-! ## What a segment says -/

/-- What the bytes of a segment say: a text without the line feeds and carriage returns at its end,
or that they are no text. -/
inductive Says : Bytes → Line → Prop where
  | text {content ending : String} (ends : ∀ char ∈ ending.toList, char = '\n' ∨ char = '\r')
      (kept : ∀ char, content.toList.getLast? = some char → char ≠ '\n' ∧ char ≠ '\r') :
      Says (Bytes.ofString (content ++ ending)) (.text content)
  | invalid {bytes : Bytes} (noText : ∀ text, Bytes.ofString text ≠ bytes) : Says bytes .invalid

/-- Whatever ends a text is trimmed, and nothing else. -/
theorem trimEnd_append {content ending : String}
    (ends : ∀ char ∈ ending.toList, char = '\n' ∨ char = '\r')
    (kept : ∀ char, content.toList.getLast? = some char → char ≠ '\n' ∧ char ≠ '\r') :
    trimEnd (content ++ ending) = content := by
  apply String.toList_inj.mp
  rw [trimEnd, String.toList_ofList, String.toList_append, List.reverse_append,
    List.dropWhile_append_of_pos (by simpa using ends)]
  cases reversed : content.toList.reverse with
  | nil => simpa using reversed.symm
  | cons last others =>
      have isLast : content.toList.getLast? = some last := by
        rw [← List.head?_reverse, reversed, List.head?_cons]
      rw [List.dropWhile_cons_of_neg (by simpa using kept last isLast), ← reversed,
        List.reverse_reverse]

theorem exists_trimEnd (text : String) : ∃ ending : String, text = trimEnd text ++ ending ∧
    (∀ char ∈ ending.toList, char = '\n' ∨ char = '\r') ∧
    ∀ char, (trimEnd text).toList.getLast? = some char → char ≠ '\n' ∧ char ≠ '\r' := by
  let isEnd (char : Char) : Bool := char = '\n' ∨ char = '\r'
  refine ⟨String.ofList (text.toList.reverse.takeWhile isEnd).reverse, ?_, ?_, ?_⟩
  · apply String.toList_inj.mp
    rw [String.toList_append, trimEnd, String.toList_ofList, String.toList_ofList,
      ← List.reverse_append, List.takeWhile_append_dropWhile, List.reverse_reverse]
  · intro char mem
    rw [String.toList_ofList, List.mem_reverse] at mem
    simpa [isEnd] using List.mem_takeWhile_imp mem
  · intro char isLast
    rw [trimEnd, String.toList_ofList, List.getLast?_reverse] at isLast
    have notEnd := List.head?_dropWhile_not isEnd text.toList.reverse
    rw [isLast] at notEnd
    simpa [isEnd] using notEnd

theorem ofBytes_eq_iff {line : Line} : ofBytes bytes = line ↔ Says bytes line := by
  constructor
  · rintro rfl
    unfold ofBytes
    cases read : Bytes.toString? bytes with
    | none => exact .invalid (Bytes.toString_eq_none_iff.mp read)
    | some text =>
        rcases exists_trimEnd text with ⟨ending, whole, ends, kept⟩
        have meaning := Says.text ends kept
        rwa [← whole, Bytes.toString_eq_some_iff.mp read] at meaning
  · rintro (⟨ends, kept⟩ | noText)
    · rw [ofBytes, Bytes.toString_eq_some_iff.mpr rfl]
      exact congrArg Line.text (trimEnd_append ends kept)
    · rw [ofBytes, Bytes.toString_eq_none_iff.mpr noText]

/-! ## One line -/

theorem ne_lineFeed_of_unended (unended : lineFeed ∉ body) :
    ∀ byte ∈ body, decide (byte ≠ lineFeed) = true :=
  fun _ mem => decide_eq_true fun isFeed => unended (isFeed ▸ mem)

theorem split_of_unended (unended : lineFeed ∉ body) : split body = (body, []) := by
  have noFeed := ne_lineFeed_of_unended unended
  rw [split, List.dropWhile_eq_nil_iff.mpr noFeed, List.takeWhile_eq_self_iff.mpr noFeed]

theorem split_line (unended : lineFeed ∉ body) (rest : Bytes) :
    split (body ++ lineFeed :: rest) = (body ++ [lineFeed], rest) := by
  have noFeed := ne_lineFeed_of_unended unended
  rw [split, List.dropWhile_append_of_pos noFeed, List.takeWhile_append_of_pos noFeed,
    List.dropWhile_cons_of_neg (by simp), List.takeWhile_cons_of_neg (by simp), List.append_nil]

theorem next_eq_none_iff : next? input = none ↔ input = [] := by
  cases input with
  | nil => simp [next?]
  | cons byte later => simp [next?]

theorem next_of_ne_nil (nonempty : input ≠ []) :
    next? input = some (ofBytes (split input).1, (split input).2) := by
  cases input with
  | nil => exact absurd rfl nonempty
  | cons byte later => rfl

theorem next_last (unended : lineFeed ∉ body) (nonempty : body ≠ []) :
    next? body = some (ofBytes body, []) := by
  rw [next_of_ne_nil nonempty, split_of_unended unended]

theorem next_line (unended : lineFeed ∉ body) (rest : Bytes) :
    next? (body ++ lineFeed :: rest) = some (ofBytes (body ++ [lineFeed]), rest) := by
  rw [next_of_ne_nil (by simp), split_line unended]

theorem all_of_next_none (ended : next? input = none) : all input = [] := by
  rw [all]
  split
  · rfl
  · rename_i found
    cases ended.symm.trans found

theorem all_of_next_some {line : Line} (read : next? input = some (line, rest)) :
    all input = line :: all rest := by
  rw [all]
  split
  · rename_i ended
    cases ended.symm.trans read
  · rename_i found
    cases found.symm.trans read
    rfl

theorem all_nil : all [] = [] :=
  all_of_next_none rfl

theorem all_last (unended : lineFeed ∉ body) (nonempty : body ≠ []) :
    all body = [ofBytes body] := by
  rw [all_of_next_some (next_last unended nonempty), all_nil]

theorem all_line (unended : lineFeed ∉ body) (rest : Bytes) :
    all (body ++ lineFeed :: rest) = ofBytes (body ++ [lineFeed]) :: all rest :=
  all_of_next_some (next_line unended rest)

/-! ## All segments -/

/-- The segments of an input. Each ends with its only line feed, save that the last one may be
without, if there is something in it. -/
inductive Segmented : Bytes → List Bytes → Prop where
  | done : Segmented [] []
  | last {body : Bytes} (unended : lineFeed ∉ body) (nonempty : body ≠ []) : Segmented body [body]
  | line {body rest : Bytes} {segments : List Bytes} (unended : lineFeed ∉ body)
      (later : Segmented rest segments) :
      Segmented (body ++ lineFeed :: rest) ((body ++ [lineFeed]) :: segments)

namespace Segmented

theorem exists_segments (input : Bytes) : ∃ segments, Segmented input segments := by
  by_cases ended : lineFeed ∈ input
  · rcases List.eq_append_cons_of_mem ended with ⟨body, rest, whole, unended⟩
    have shorter : rest.length < input.length := by
      rw [whole, List.length_append, List.length_cons]
      omega
    rcases exists_segments rest with ⟨segments, later⟩
    rw [whole]
    exact ⟨_, .line unended later⟩
  · by_cases nonempty : input = []
    · exact ⟨[], nonempty ▸ .done⟩
    · exact ⟨[input], .last ended nonempty⟩
termination_by input.length

theorem flatten_eq (segmented : Segmented input segments) : segments.flatten = input := by
  induction segmented with
  | done => rfl
  | last unended nonempty => simp
  | line unended later ih => simp [ih]

/-- There is one way to cut an input. -/
theorem unique {others : List Bytes} (segmented : Segmented input segments)
    (segmentedToo : Segmented input others) : others = segments := by
  -- The other way must be cut at the same place: `split` finds the first line feed from the input.
  induction segmented generalizing others with
  | done =>
      generalize same : ([] : Bytes) = whole at segmentedToo
      cases segmentedToo with
      | done => rfl
      | last unended nonempty => exact absurd same.symm nonempty
      | line unended later => simp at same
  | @last body unended nonempty =>
      cases segmentedToo with
      | done => exact absurd rfl nonempty
      | last => rfl
      | line => simp at unended
  | @line body rest segments unended later ih =>
      generalize same : body ++ lineFeed :: rest = whole at segmentedToo
      cases segmentedToo with
      | done => simp at same
      | last unendedToo => exact absurd (same ▸ by simp) unendedToo
      | line unendedToo laterToo =>
          have sameSplit := congrArg split same
          rw [split_line unended, split_line unendedToo, Prod.mk.injEq] at sameSplit
          rcases sameSplit with ⟨sameBody, rfl⟩
          rw [sameBody, ih laterToo]

/-- A line that is read is what the first segment says, and the others are left. -/
theorem next_eq (segmented : Segmented input segments) :
    next? input = segments.head?.map fun segment => (ofBytes segment, segments.tail.flatten) := by
  cases segmented with
  | done => rfl
  | last unended nonempty => exact next_last unended nonempty
  | line unended later => rw [next_line unended, ← later.flatten_eq]; rfl

theorem all_eq (segmented : Segmented input segments) : all input = segments.map ofBytes := by
  induction segmented with
  | done => exact all_nil
  | last unended nonempty => exact all_last unended nonempty
  | line unended later ih => rw [all_line unended, ih, List.map_cons]

end Segmented

/-- What comes after a line feed is read as if nothing were before it. -/
theorem all_append_lineFeed (front back : Bytes) :
    all (front ++ lineFeed :: back) = all (front ++ [lineFeed]) ++ all back := by
  rcases Segmented.exists_segments front with ⟨segments, segmented⟩
  induction segmented with
  | done =>
      have unended : lineFeed ∉ ([] : Bytes) := List.not_mem_nil
      rw [all_line unended, all_line unended, all_nil]
      rfl
  | last unended nonempty =>
      rw [all_line unended, all_line unended, all_nil]
      rfl
  | line unended later ih =>
      rw [List.append_assoc, List.cons_append, all_line unended, ih, List.append_assoc,
        List.cons_append, all_line unended, List.cons_append]

/-! ## Reading back what was written -/

/-- How a line that is written can end. -/
inductive Ending where
  | feed
  | returnAndFeed

/-- The characters at the end of a line. -/
def Ending.text : Ending → String
  | feed => "\n"
  | returnAndFeed => "\r\n"

/-- Lines, each with its ending, one after another. -/
def written (lines : List (String × Ending)) : Bytes :=
  lines.flatMap fun (line, ending) => Bytes.ofString (line ++ ending.text)

/-- A text that can be told from what ends its line. -/
def Fits (line : String) : Prop :=
  '\n' ∉ line.toList ∧ line.toList.getLast? ≠ some '\r'

instance (line : String) : Decidable (Fits line) :=
  inferInstanceAs (Decidable (_ ∧ _))

theorem lineFeed_mem_ofString_iff {text : String} :
    lineFeed ∈ Bytes.ofString text ↔ '\n' ∈ text.toList := by
  rw [Bytes.ofString_eq_flatMap, List.mem_flatMap]
  constructor
  · rintro ⟨char, inText, inChar⟩
    by_cases ascii : char.toNat < 128
    · rw [Ascii.utf8EncodeChar_of_lt ascii, List.mem_singleton] at inChar
      have sameCode := congrArg UInt8.toNat inChar
      rw [Ascii.byteOf, UInt8.toNat_ofNat_of_lt' (Nat.lt_trans ascii (by decide))] at sameCode
      rwa [← Char.toNat_inj.mp (show '\n'.toNat = char.toNat from sameCode)] at inText
    · have above := Ascii.le_of_mem_utf8EncodeChar (Nat.le_of_not_lt ascii) inChar
      exact absurd above (by decide)
  · exact fun mem => ⟨'\n', mem, by decide⟩

namespace Fits

variable {line : String}

theorem kept (fits : Fits line) (char : Char) (isLast : line.toList.getLast? = some char) :
    char ≠ '\n' ∧ char ≠ '\r' := by
  constructor
  · rintro rfl
    exact fits.1 (List.mem_of_getLast? isLast)
  · rintro rfl
    exact fits.2 isLast

theorem ofBytes_line (fits : Fits line) (ending : Ending) :
    ofBytes (Bytes.ofString (line ++ ending.text)) = .text line := by
  refine ofBytes_eq_iff.mpr (.text ?_ fits.kept)
  cases ending with
  | feed => simp [Ending.text]
  | returnAndFeed => simp [Ending.text]

theorem all_line_append (fits : Fits line) (ending : Ending) (rest : Bytes) :
    all (Bytes.ofString (line ++ ending.text) ++ rest) = .text line :: all rest := by
  obtain ⟨before, unended, whole⟩ : ∃ before : String, '\n' ∉ before.toList ∧
      line ++ ending.text = before ++ "\n" := by
    cases ending with
    | feed => exact ⟨line, fits.1, rfl⟩
    | returnAndFeed =>
        refine ⟨line ++ "\r", ?_, by rw [String.append_assoc]; rfl⟩
        simpa using fits.1
  have said := fits.ofBytes_line ending
  rw [whole, Bytes.ofString_append] at said ⊢
  have isFeed : Bytes.ofString "\n" = [lineFeed] := by decide
  rw [isFeed] at said ⊢
  rw [List.append_assoc, List.singleton_append, all_line (mt lineFeed_mem_ofString_iff.mp unended),
    said]

theorem all_unended (fits : Fits line) :
    all (Bytes.ofString line) = if line = "" then [] else [.text line] := by
  by_cases empty : line = ""
  · rw [if_pos empty, empty]
    exact all_nil
  · have nonempty : Bytes.ofString line ≠ [] := fun same => empty (Bytes.ofString_inj.mp same)
    have unended : lineFeed ∉ Bytes.ofString line := mt lineFeed_mem_ofString_iff.mp fits.1
    have meaning : Says (Bytes.ofString (line ++ "")) (.text line) := .text nofun fits.kept
    rw [String.append_empty] at meaning
    rw [if_neg empty, all_last unended nonempty, ofBytes_eq_iff.mpr meaning]

end Fits

theorem all_written {lines : List (String × Ending)} {last : String}
    (fits : ∀ line ∈ lines, Fits line.1) (fitsLast : Fits last) :
    all (written lines ++ Bytes.ofString last) =
      lines.map (.text ·.1) ++ if last = "" then [] else [.text last] := by
  induction lines with
  | nil => exact fitsLast.all_unended
  | cons line later ih =>
      rw [written, List.flatMap_cons, List.append_assoc,
        (fits line List.mem_cons_self).all_line_append, List.map_cons, List.cons_append]
      exact congrArg _ (ih fun other mem => fits other (List.mem_cons_of_mem _ mem))

/-- How input is read line by line. It has one division into segments, and each read takes the next
one: the text that it spells, less what ends it, or an error if it spells none. So what comes after
a line feed is read the same whatever is before it, only the end of the input ends reading, and
lines that were written with a line feed or a carriage return and a line feed after each, save
perhaps the last, are read back. -/
theorem lines_read :
    (∀ input, ∃! segments, Segmented input segments) ∧
    (∀ input segments, Segmented input segments →
      segments.flatten = input ∧ List.Forall₂ Says segments (all input) ∧
      next? input =
        segments.head?.map fun segment => (ofBytes segment, segments.tail.flatten)) ∧
    (∀ front back, all (front ++ lineFeed :: back) = all (front ++ [lineFeed]) ++ all back) ∧
    (∀ input, next? input = none ↔ input = []) ∧
    (∀ rest, all (lineFeed :: rest) = .text "" :: all rest) ∧
    ∀ lines last, (∀ line ∈ lines, Fits line.1) → Fits last →
      all (written lines ++ Bytes.ofString last) =
        lines.map (.text ·.1) ++ if last = "" then [] else [.text last] := by
  refine ⟨fun input => ?_, fun input segments segmented => ?_, all_append_lineFeed,
    fun _ => next_eq_none_iff, fun rest => ?_, fun _ _ => all_written⟩
  · rcases Segmented.exists_segments input with ⟨segments, segmented⟩
    exact ⟨segments, segmented, fun _ => segmented.unique⟩
  · refine ⟨segmented.flatten_eq, ?_, segmented.next_eq⟩
    rw [segmented.all_eq, List.forall₂_map_right_iff]
    exact List.forall₂_same.mpr fun segment _ => ofBytes_eq_iff.mp rfl
  · exact (show Fits "" by decide).all_line_append .feed rest

end Lines

end OwnerKeys
