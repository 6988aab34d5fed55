import Mathlib.Data.List.Forall2
import OwnerKeys.Proofs.Text.Ascii
import OwnerKeys.Proofs.Text.GuidText

/-!
# Which texts are read as a GUID

A text is read as a GUID if it is the text of the GUID but for the case of its letters and a pair of
braces. Every other text is refused by the first rule that it breaks: the length, then the braces
and the dashes, then the digits. All of this is said of bytes, `ofText_eq_ok_iff` and the lemmas
after it, so characters of several bytes need no case of their own; `parse_eq_ok_iff` says it of
texts.

`reading_inverts_printing` is the whole of it, together with the bytes of a GUID in memory.
-/

namespace OwnerKeys

namespace Hex

open Ascii

/-- The byte of a digit. -/
def digitByte (value : Nat) : UInt8 :=
  byteOf (Nat.digitChar value)

theorem value?_eq_some_iff : ∀ byte : UInt8, ∀ value < 16,
    value? byte = some value ↔ lowerByte byte = digitByte value :=
  forall_byte (by decide +kernel)

theorem lt_of_value? : ∀ byte : UInt8, ∀ value ∈ value? byte, value < 16 :=
  forall_byte (by decide +kernel)

/-- Two digits of either case spell a byte if they are its digits but for their case. -/
theorem pair?_eq_some_iff {high low byte : UInt8} :
    pair? high low = some byte ↔
      lowerByte high = digitByte (byte.toNat / 16) ∧
        lowerByte low = digitByte (byte.toNat % 16) := by
  have bound := byte.toNat_lt
  rw [← value?_eq_some_iff high _ (by omega), ← value?_eq_some_iff low _ (by omega)]
  unfold pair?
  cases highValue : value? high with
  | none => simp
  | some left =>
      cases lowValue : value? low with
      | none => simp
      | some right =>
          have leftSmall := lt_of_value? high left highValue
          have rightSmall := lt_of_value? low right lowValue
          simp only [bind, Option.bind, pure, Option.some.injEq]
          constructor
          · rintro rfl
            simp only [UInt8.toNat_ofNat']
            omega
          · rintro ⟨rfl, rfl⟩
            apply UInt8.toNat_inj.mp
            simp only [UInt8.toNat_ofNat']
            omega

end Hex

namespace Guid

open Ascii Hex

/-- The bytes of the text of a GUID. -/
def textBytes (guid : Guid) : Bytes :=
  Bytes.ofString guid.text

theorem textBytes_eq_map (guid : Guid) : guid.textBytes = guid.textChars.map byteOf := by
  have ascii : ∀ digit < 16, (Nat.digitChar digit).toNat < 128 := by decide
  refine ofString_ofList_of_ascii fun char mem => ?_
  rcases dash_or_digit mem with rfl | ⟨digit, small, rfl⟩
  · decide
  · exact ascii digit small

@[simp]
theorem length_textBytes (guid : Guid) : guid.textBytes.length = 36 := by
  rw [textBytes_eq_map, List.length_map, length_textChars]

/-- A GUID is spelled by the bytes that are its digits. -/
theorem ofDigits_eq_some_iff {bytes : Bytes} {guid : Guid} :
    ofDigits? bytes = some guid ↔ bytes = guid.digits := by
  constructor
  · intro found
    match bytes, found with
    | [a0, a1, a2, a3, b0, b1, c0, c1, d0, d1, d2, d3, d4, d5, d6, d7], found =>
      cases found
      simp [digits, LittleEndian.ofUInt32_word32, LittleEndian.ofUInt16_word16]
  · rintro rfl
    exact ofDigits_digits guid

theorem exists_digits (guid : Guid) : ∃ a0 a1 a2 a3 b0 b1 c0 c1 d0 d1 d2 d3 d4 d5 d6 d7,
    guid.digits = [a0, a1, a2, a3, b0, b1, c0, c1, d0, d1, d2, d3, d4, d5, d6, d7] := by
  obtain ⟨data1, data2, data3, ⟨⟨data4⟩, size⟩⟩ := guid
  match data4, size with
  | [d0, d1, d2, d3, d4, d5, d6, d7], _ =>
    exact ⟨_, _, _, _, _, _, _, _, d0, d1, d2, d3, d4, d5, d6, d7, rfl⟩

/-- The text of a GUID has dashes at the four places for them. -/
theorem getElem?_textBytes_dash (guid : Guid) :
    ∀ place ∈ dashPlaces, guid.textBytes[place]? = some 0x2d := by
  rcases guid.exists_digits with ⟨_, _, _, _, _, _, _, _, _, _, _, _, _, _, _, _, digits⟩
  rw [textBytes_eq_map, textChars, digits]
  simp only [dashPlaces, List.forall_mem_cons, List.not_mem_nil, false_imp_iff, implies_true,
    and_true]
  and_intros <;> rfl

/-- At the other places it has the digits of the bytes, one byte after another. -/
theorem forall₂_textBytes_pair (guid : Guid) :
    List.Forall₂ (fun place byte =>
      guid.textBytes[place]? = some (digitByte (byte.toNat / 16)) ∧
        guid.textBytes[place + 1]? = some (digitByte (byte.toNat % 16)))
      pairPlaces guid.digits := by
  rcases guid.exists_digits with ⟨_, _, _, _, _, _, _, _, _, _, _, _, _, _, _, _, digits⟩
  rw [textBytes_eq_map, textChars, digits]
  simp only [pairPlaces, List.forall₂_cons, List.forall₂_nil_left_iff, and_true]
  and_intros <;> rfl

/-- Every place of a text without braces is one for a dash or one for a digit. -/
theorem dash_or_pair : ∀ place < 36,
    place ∈ dashPlaces ∨ ∃ first ∈ pairPlaces, place = first ∨ place = first + 1 := by
  decide

theorem add_one_lt_of_mem_pairPlaces : ∀ place ∈ pairPlaces, place + 1 < 36 := by
  decide

theorem mapM_eq_some_iff {Item Result : Type} {read : Item → Option Result} {items : List Item}
    {results : List Result} :
    items.mapM read = some results ↔
      List.Forall₂ (fun item result => read item = some result) items results := by
  induction items generalizing results with
  | nil => simp [eq_comm]
  | cons item later ih =>
      rw [List.mapM_cons, List.forall₂_cons_left_iff]
      cases found : read item with
      | none => simp
      | some result =>
          cases foundLater : later.mapM read with
          | none => simp [← ih, foundLater]
          | some resultsLater => simp [← ih, foundLater, eq_comm]

section Plain

variable {plain : Bytes} {guid : Guid}

/-- A text without braces spells a GUID at a place if it has there what the text of the GUID has,
but for the case of letters. -/
def SpellsAt (plain : Bytes) (guid : Guid) (place : Nat) : Prop :=
  (plain.map lowerByte)[place]? = guid.textBytes[place]?

theorem map_eq_textBytes_iff (size : plain.length = 36) :
    plain.map lowerByte = guid.textBytes ↔
      (∀ place ∈ dashPlaces, SpellsAt plain guid place) ∧
        ∀ place ∈ pairPlaces, SpellsAt plain guid place ∧ SpellsAt plain guid (place + 1) := by
  constructor
  · intro same
    simp [SpellsAt, same]
  · rintro ⟨atDashes, atPairs⟩
    refine List.ext_getElem? fun place => ?_
    by_cases inside : place < 36
    · rcases dash_or_pair place inside with isDash | ⟨first, isPair, rfl | rfl⟩
      · exact atDashes place isDash
      · exact (atPairs _ isPair).1
      · exact (atPairs _ isPair).2
    · rw [List.getElem?_eq_none (by simp; omega), List.getElem?_eq_none (by simp; omega)]

theorem spellsAt_dash_iff {place : Nat} (isDash : place ∈ dashPlaces) :
    SpellsAt plain guid place ↔ plain[place]? = some 0x2d := by
  have onlyDash : ∀ byte : UInt8, lowerByte byte = 0x2d ↔ byte = 0x2d :=
    forall_byte (by decide +kernel)
  rw [SpellsAt, getElem?_textBytes_dash guid place isDash, List.getElem?_map,
    Option.map_eq_some_iff]
  simp [onlyDash]

/-- The pairs of digits are those of a GUID if every one of them is. -/
theorem forall₂_pairAt_iff (size : plain.length = 36) :
    List.Forall₂ (fun place byte => pairAt? plain place = some byte) pairPlaces guid.digits ↔
      ∀ place ∈ pairPlaces, SpellsAt plain guid place ∧ SpellsAt plain guid (place + 1) := by
  have inside := add_one_lt_of_mem_pairPlaces
  have spelled := guid.forall₂_textBytes_pair
  generalize pairPlaces = places at inside spelled
  generalize guid.digits = bytes at spelled
  induction spelled with
  | nil => simp
  | @cons place byte laterPlaces later here _ ih =>
      rw [List.forall_mem_cons] at inside
      rw [List.forall₂_cons, List.forall_mem_cons]
      refine and_congr ?_ (ih inside.2)
      rw [pairAt?, SpellsAt, SpellsAt, here.1, here.2, List.getElem?_map, List.getElem?_map,
        List.getElem?_eq_getElem (by omega), List.getElem?_eq_getElem (by omega)]
      simp [pair?_eq_some_iff]

/-- The dashes and the digits of a text without braces are those of a GUID if the text is the text
of the GUID but for the case of letters. -/
theorem dashes_and_digits_iff (size : plain.length = 36) :
    ((dashPlaces.all fun place => plain[place]? == some 0x2d) = true ∧
        (pairPlaces.mapM (pairAt? plain)).bind ofDigits? = some guid) ↔
      plain.map lowerByte = guid.textBytes := by
  rw [map_eq_textBytes_iff size]
  refine and_congr ?_ ?_
  · rw [List.all_eq_true]
    refine forall₂_congr fun place isDash => ?_
    rw [spellsAt_dash_iff isDash, beq_iff_eq]
  · rw [← forall₂_pairAt_iff size, ← mapM_eq_some_iff, Option.bind_eq_some_iff]
    simp [ofDigits_eq_some_iff]

end Plain

section Decorated

variable {text plain : Bytes} {guid : Guid}

/-- The place of a text at which the text without braces starts. -/
def margin (text : Bytes) : Nat :=
  if text.length = 38 then 1 else 0

/-- A text has its braces, if it is long enough for them, and its dashes. -/
structure Framed (text : Bytes) : Prop where
  braces : text.length = 38 → text[0]? = some 0x7b ∧ text[37]? = some 0x7d
  dashes : ∀ place ∈ dashPlaces, text[margin text + place]? = some 0x2d

/-- A text that is long enough for braces is taken apart at its first and its last byte. -/
theorem exists_braced (size : text.length = 38) :
    ∃ first plain last, plain.length = 36 ∧ text = first :: (plain ++ [last]) := by
  match text, size with
  | first :: later, size =>
    have notEmpty : later ≠ [] := by
      rintro rfl
      simp at size
    refine ⟨first, later.dropLast, later.getLast notEmpty, ?_, ?_⟩
    · simpa using size
    · rw [List.dropLast_append_getLast notEmpty]

theorem undecorate_braced (first last : UInt8) (size : plain.length = 36) :
    undecorate (first :: (plain ++ [last])) =
      if first = 0x7b ∧ last = 0x7d then .ok plain else .error .format := by
  simp [undecorate, size, List.getLast?_cons]

theorem undecorate_eq_ok_iff :
    undecorate text = .ok plain ↔
      plain.length = 36 ∧ (text = plain ∨ text = 0x7b :: (plain ++ [0x7d])) := by
  constructor
  · intro undecorated
    by_cases short : text.length = 36
    · rw [undecorate, if_pos short] at undecorated
      cases undecorated
      exact ⟨short, .inl rfl⟩
    by_cases long : text.length = 38
    · rcases exists_braced long with ⟨first, inner, last, size, rfl⟩
      rw [undecorate_braced first last size] at undecorated
      split at undecorated
      case isTrue braces =>
        cases undecorated
        rcases braces with ⟨rfl, rfl⟩
        exact ⟨size, .inr rfl⟩
      case isFalse => cases undecorated
    · rw [undecorate, if_neg short, if_neg long] at undecorated
      cases undecorated
  · rintro ⟨size, rfl | rfl⟩
    · rw [undecorate, if_pos size]
    · rw [undecorate_braced _ _ size, if_pos ⟨rfl, rfl⟩]

theorem undecorate_eq_length_iff :
    undecorate text = .error .length ↔ text.length ≠ 36 ∧ text.length ≠ 38 := by
  unfold undecorate
  split
  · simp [*]
  · split
    · split <;> simp [*]
    · simp [*]

/-- The digits are not looked at before the braces are off. -/
theorem undecorate_ne_digit (text : Bytes) : undecorate text ≠ .error .digit := by
  unfold undecorate
  split
  · simp
  · split
    · split <;> simp
    · simp

/-- The text without braces starts at the margin. -/
theorem getElem?_of_undecorate (undecorated : undecorate text = .ok plain) {place : Nat}
    (inside : place < 36) : plain[place]? = text[margin text + place]? := by
  rcases undecorate_eq_ok_iff.mp undecorated with ⟨size, rfl | rfl⟩
  · simp [margin, size]
  · rw [margin, if_pos (by simp [size]), Nat.add_comm, List.getElem?_cons_succ,
      List.getElem?_append_left (by omega)]

theorem framed_iff (measured : text.length = 36 ∨ text.length = 38) :
    Framed text ↔ ∃ plain, undecorate text = .ok plain ∧
      ∀ place ∈ dashPlaces, plain[place]? = some 0x2d := by
  have inside : ∀ place ∈ dashPlaces, place < 36 := by decide
  constructor
  · intro framed
    have undecorated : ∃ plain, undecorate text = .ok plain := by
      rcases measured with short | long
      · exact ⟨text, undecorate_eq_ok_iff.mpr ⟨short, .inl rfl⟩⟩
      · rcases exists_braced long with ⟨first, plain, last, size, rfl⟩
        have braces : first = 0x7b ∧ last = 0x7d := by simpa [size] using framed.braces long
        exact ⟨plain, by rw [undecorate_braced first last size, if_pos braces]⟩
    rcases undecorated with ⟨plain, undecorated⟩
    refine ⟨plain, undecorated, fun place isDash => ?_⟩
    rw [getElem?_of_undecorate undecorated (inside place isDash)]
    exact framed.dashes place isDash
  · rintro ⟨plain, undecorated, dashes⟩
    refine ⟨fun long => ?_, fun place isDash => ?_⟩
    · rcases undecorate_eq_ok_iff.mp undecorated with ⟨size, rfl | rfl⟩
      · omega
      · simp [size]
    · rw [← getElem?_of_undecorate undecorated (inside place isDash)]
      exact dashes place isDash

theorem ofText_of_error {error : TextError} (undecorated : undecorate text = .error error) :
    ofText text = .error error := by
  rw [ofText, undecorated]
  rfl

theorem ofText_of_ok (undecorated : undecorate text = .ok plain) :
    ofText text =
      if dashPlaces.all fun place => plain[place]? == some 0x2d then
        match (pairPlaces.mapM (pairAt? plain)).bind ofDigits? with
        | some guid => .ok guid
        | none => .error .digit
      else
        .error .format := by
  rw [ofText, undecorated]
  rfl

/-- A byte string spells a GUID if it is the text of the GUID but for braces and the case of
letters. -/
theorem ofText_eq_ok_iff :
    ofText text = .ok guid ↔
      ∃ plain, undecorate text = .ok plain ∧ plain.map lowerByte = guid.textBytes := by
  cases undecorated : undecorate text with
  | error error => simp [ofText_of_error undecorated]
  | ok plain =>
      have size := (undecorate_eq_ok_iff.mp undecorated).1
      simp only [Except.ok.injEq, exists_eq_left', ← dashes_and_digits_iff size,
        ofText_of_ok undecorated]
      split
      · split <;> simp [*]
      · simp [*]

/-- The length is looked at first. -/
theorem ofText_eq_length_iff :
    ofText text = .error .length ↔ text.length ≠ 36 ∧ text.length ≠ 38 := by
  rw [← undecorate_eq_length_iff]
  cases undecorated : undecorate text with
  | error error => rw [ofText_of_error undecorated, Except.error.injEq, Except.error.injEq]
  | ok plain =>
      rw [ofText_of_ok undecorated]
      split
      · split <;> simp
      · simp

/-- The braces and the dashes are looked at next. -/
theorem ofText_eq_format_iff :
    ofText text = .error .format ↔
      (text.length = 36 ∨ text.length = 38) ∧ ¬Framed text := by
  by_cases measured : text.length = 36 ∨ text.length = 38
  · rw [framed_iff measured]
    cases undecorated : undecorate text with
    | error error =>
        rw [ofText_of_error undecorated]
        cases error with
        | length => have := undecorate_eq_length_iff.mp undecorated; omega
        | format => simp [measured]
        | digit => exact absurd undecorated (undecorate_ne_digit text)
    | ok plain =>
        simp only [Except.ok.injEq, exists_eq_left', ofText_of_ok undecorated, measured, true_and]
        split
        case isTrue dashes =>
          have dashed : ∀ place ∈ dashPlaces, plain[place]? = some 0x2d := by simpa using dashes
          refine iff_of_false ?_ (not_not_intro dashed)
          split <;> simp
        case isFalse dashes =>
          refine iff_of_true rfl fun dashed => dashes ?_
          simpa using dashed
  · simp only [measured, false_and, iff_false]
    have wrong : ofText text = .error .length := ofText_eq_length_iff.mpr (by omega)
    rw [wrong]
    simp

/-- The digits are looked at last. -/
theorem ofText_eq_digit_iff :
    ofText text = .error .digit ↔
      (text.length = 36 ∨ text.length = 38) ∧ Framed text ∧ ∀ guid, ofText text ≠ .ok guid := by
  constructor
  · intro wrong
    have measured : text.length = 36 ∨ text.length = 38 := by
      by_contra notMeasured
      have short := ofText_eq_length_iff.mpr (by omega : text.length ≠ 36 ∧ text.length ≠ 38)
      simp [wrong] at short
    have framed : Framed text := by
      by_contra notFramed
      have unframed := ofText_eq_format_iff.mpr ⟨measured, notFramed⟩
      simp [wrong] at unframed
    exact ⟨measured, framed, by simp [wrong]⟩
  · rintro ⟨measured, framed, unread⟩
    cases outcome : ofText text with
    | ok guid => exact absurd outcome (unread guid)
    | error error =>
        cases error with
        | length => have := ofText_eq_length_iff.mp outcome; omega
        | format => exact absurd framed (ofText_eq_format_iff.mp outcome).2
        | digit => rfl

end Decorated

/-- A text spells a GUID if it is the text of the GUID but for the case of ASCII letters, and for
braces around it. -/
def Spells (text : String) (guid : Guid) : Prop :=
  (text.utf8ByteSize = 36 ∧ lower text = guid.text) ∨
    (text.utf8ByteSize = 38 ∧ ∃ plain, text = "\x7b" ++ plain ++ "\x7d" ∧ lower plain = guid.text)

theorem lower_eq_text_iff {text : String} {guid : Guid} :
    lower text = guid.text ↔ (Bytes.ofString text).map lowerByte = guid.textBytes := by
  rw [← Bytes.ofString_inj, ofString_lower, textBytes]

theorem braces_bytes (plain : String) :
    Bytes.ofString ("\x7b" ++ plain ++ "\x7d") = 0x7b :: (Bytes.ofString plain ++ [0x7d]) := by
  rw [Bytes.ofString_append, Bytes.ofString_append]
  rfl

/-- The bytes of a text of a GUID are ASCII in either case. -/
theorem lt_of_map_eq_textBytes {plain : Bytes} {guid : Guid}
    (same : plain.map lowerByte = guid.textBytes) : ∀ byte ∈ plain, byte < 128 := by
  intro byte mem
  have inText : lowerByte byte ∈ guid.textBytes := same ▸ List.mem_map_of_mem mem
  rw [textBytes_eq_map] at inText
  rcases List.mem_map.mp inText with ⟨char, inChars, isByte⟩
  rw [← lowerByte_lt_iff, ← isByte]
  have small : ∀ digit < 16, byteOf (Nat.digitChar digit) < 128 := by decide +kernel
  rcases dash_or_digit inChars with rfl | ⟨digit, below, rfl⟩
  · decide
  · exact small digit below

/-- A text is read as the GUID that it spells, and as no other. -/
theorem parse_eq_ok_iff {text : String} {guid : Guid} :
    parse text = .ok guid ↔ Spells text guid := by
  rw [parse, ofText_eq_ok_iff, Spells, ← Bytes.length_ofString, lower_eq_text_iff]
  constructor
  · rintro ⟨plain, undecorated, same⟩
    rcases undecorate_eq_ok_iff.mp undecorated with ⟨size, isPlain | isBraced⟩
    · exact .inl ⟨isPlain ▸ size, isPlain ▸ same⟩
    · rcases exists_ofString_eq (lt_of_map_eq_textBytes same) with ⟨inner, rfl⟩
      refine .inr ⟨by simp [isBraced, size], inner, ?_, lower_eq_text_iff.mpr same⟩
      rw [← Bytes.ofString_inj, isBraced, braces_bytes]
  · rintro (⟨size, same⟩ | ⟨size, plain, rfl, same⟩)
    · exact ⟨_, undecorate_eq_ok_iff.mpr ⟨size, .inl rfl⟩, same⟩
    · refine ⟨Bytes.ofString plain, undecorate_eq_ok_iff.mpr ⟨?_, .inr (braces_bytes plain)⟩,
        lower_eq_text_iff.mp same⟩
      rw [braces_bytes] at size
      simpa using size

/-- A text has one of the two lengths of a GUID. -/
def Measured (text : String) : Prop :=
  text.utf8ByteSize = 36 ∨ text.utf8ByteSize = 38

/-- What reading a text comes to: the GUID that it spells, or else the first rule that it breaks. A
constant is read by the same rules and has its own wording for them. -/
structure ReadExactly (text : String) : Prop where
  guid : ∀ guid, parse text = .ok guid ↔ Spells text guid
  length : parse text = .error .length ↔ ¬Measured text
  format : parse text = .error .format ↔ Measured text ∧ ¬Framed (Bytes.ofString text)
  digit : parse text = .error .digit ↔
    Measured text ∧ Framed (Bytes.ofString text) ∧ ∀ guid, ¬Spells text guid
  constant : ofConstant text = (parse text).mapError TextError.constantMessage

theorem readExactly (text : String) : ReadExactly text where
  guid _ := parse_eq_ok_iff
  length := by
    rw [parse, ofText_eq_length_iff, Bytes.length_ofString, Measured, not_or]
  format := by
    rw [parse, ofText_eq_format_iff, Bytes.length_ofString, Measured]
  digit := by
    simp only [← parse_eq_ok_iff]
    rw [parse, ofText_eq_digit_iff, Bytes.length_ofString, Measured]
  constant := by
    rw [ofConstant, parse]
    cases ofText (Bytes.ofString text) with
    | ok guid => rfl
    | error error => rfl

/-- The digits in the order of memory: the first four bytes and the two pairs after them are turned
around. -/
def memoryOrder (digits : Bytes) : Bytes :=
  (digits.take 4).reverse ++ ((digits.drop 4).take 2).reverse ++
    ((digits.drop 6).take 2).reverse ++ digits.drop 8

theorem toBytes_eq_memoryOrder (guid : Guid) : guid.toBytes = memoryOrder guid.digits :=
  rfl

theorem ofBytes_eq_some_iff {bytes : Bytes} {guid : Guid} :
    ofBytes? bytes = some guid ↔ guid.toBytes = bytes := by
  constructor
  · intro found
    unfold ofBytes? at found
    split at found
    case h_1 read =>
      cases found
      simpa using (eq_of_read read).symm
    case h_2 => cases found
  · rintro rfl
    have read := read_toBytes guid []
    rw [List.append_nil] at read
    rw [ofBytes?, read]

theorem exists_ofBytes_iff {bytes : Bytes} :
    (∃ guid, ofBytes? bytes = some guid ∧ guid.toBytes = bytes) ↔ bytes.length = 16 := by
  constructor
  · rintro ⟨guid, -, rfl⟩
    exact length_toBytes guid
  · intro size
    rcases exists_read (Nat.le_of_eq size.symm) with ⟨guid, rest, read⟩
    have noRest : rest = [] := by
      have := length_of_read read
      exact List.eq_nil_of_length_eq_zero (by omega)
    have spelled : guid.toBytes = bytes := by
      rw [eq_of_read read, noRest, List.append_nil]
    exact ⟨guid, ofBytes_eq_some_iff.mpr spelled, spelled⟩

/-- The text of a GUID has small letters only. -/
theorem lower_text (guid : Guid) : lower guid.text = guid.text := by
  have small : ∀ digit < 16, (Nat.digitChar digit).toLower = Nat.digitChar digit := by decide
  rw [← String.toList_inj, lower, text, String.toList_map, String.toList_ofList]
  refine (List.map_congr_left fun char mem => ?_).trans (List.map_id _)
  rcases dash_or_digit mem with rfl | ⟨digit, below, rfl⟩
  · decide
  · exact small digit below

/-- What printing a GUID comes to: its text is read as the GUID in either case and in braces, and
spells the bytes of the GUID in memory, which are read as the GUID too. -/
structure Printed (guid : Guid) : Prop where
  plain : parse guid.text = .ok guid
  anyCase : ∀ text, lower text = guid.text → parse text = .ok guid
  braced : ∀ text, lower text = guid.text → parse ("\x7b" ++ text ++ "\x7d") = .ok guid
  memory : ofBytes? guid.toBytes = some guid
  pairs : guid.text.toList.filter (· ≠ '-') = Hex.ofBytes guid.digits
  order : guid.toBytes = memoryOrder guid.digits

theorem utf8ByteSize_of_lower {text : String} {guid : Guid} (same : lower text = guid.text) :
    text.utf8ByteSize = 36 := by
  have sizes := congrArg List.length (lower_eq_text_iff.mp same)
  rw [List.length_map, Bytes.length_ofString, length_textBytes] at sizes
  exact sizes

theorem printed (guid : Guid) : Printed guid where
  plain := parse_eq_ok_iff.mpr (.inl ⟨utf8ByteSize_text guid, lower_text guid⟩)
  anyCase text same := parse_eq_ok_iff.mpr (.inl ⟨utf8ByteSize_of_lower same, same⟩)
  braced text same := by
    refine parse_eq_ok_iff.mpr (.inr ⟨?_, text, rfl, same⟩)
    rw [String.utf8ByteSize_append, String.utf8ByteSize_append, utf8ByteSize_of_lower same]
    rfl
  memory := ofBytes_eq_some_iff.mpr rfl
  pairs := by
    rw [text, String.toList_ofList]
    exact filter_textChars guid
  order := toBytes_eq_memoryOrder guid

/-- Reading takes exactly the texts that spell a GUID and names the first rule that any other text
breaks, it inverts printing, and the 16 bytes of memory stand for GUIDs one to one, in an order
that is the order of the text but for the words. -/
theorem reading_inverts_printing :
    (∀ text, ReadExactly text) ∧ (∀ guid, Printed guid) ∧
      ∀ bytes, (∃ guid, ofBytes? bytes = some guid ∧ guid.toBytes = bytes) ↔ bytes.length = 16 :=
  ⟨readExactly, printed, fun _ => exists_ofBytes_iff⟩

end Guid

end OwnerKeys
