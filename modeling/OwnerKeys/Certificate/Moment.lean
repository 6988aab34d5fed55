import OwnerKeys.Certificate

/-!
# Moments

The first and the last moment of a certificate's validity are written as digits: two for each of
year, month, day, hour, minute and second, where a generalized time has two more for the century.
The seconds may be missing, a generalized time may have a fraction of a second, and the time zone is
either `Z` or a distance from it. What cannot be read is shown as bad.
-/

namespace OwnerKeys

/-- A moment by the calendar. -/
structure Moment where
  /-- The year. -/
  year : Int
  /-- The month, from 1 to 12. -/
  month : Nat
  /-- The day of the month. -/
  day : Nat
  /-- The hour. -/
  hour : Nat
  /-- The minute. -/
  minute : Nat
  /-- The second. -/
  second : Nat
deriving DecidableEq, Repr

namespace Moment

/-- Whether a year has a leap day. -/
def isLeap (year : Int) : Bool :=
  year % 4 == 0 && (year % 100 != 0 || year % 400 == 0)

/-- The number of days in a month. -/
def daysInMonth (year : Int) (month : Nat) : Nat :=
  if month = 2 then (if isLeap year then 29 else 28)
  else if month ∈ [4, 6, 9, 11] then 30 else 31

/-- The number of the day in the calendar, counted from the first of March of the year zero. -/
def dayNumber (year : Int) (month day : Nat) : Int :=
  let shifted : Int := if month ≤ 2 then year - 1 else year
  let era := shifted.fdiv 400
  let yearOfEra := shifted - era * 400
  let monthFromMarch : Int := if month ≤ 2 then month + 9 else month - 3
  let dayOfYear := (153 * monthFromMarch + 2) / 5 + day - 1
  era * 146097 + yearOfEra * 365 + yearOfEra / 4 - yearOfEra / 100 + dayOfYear

/-- The date of a day by its number. -/
def dateOfDay (number : Int) : Int × Nat × Nat :=
  let era := number.fdiv 146097
  let dayOfEra := number - era * 146097
  let yearOfEra :=
    (dayOfEra - dayOfEra / 1460 + dayOfEra / 36524 - dayOfEra / 146096) / 365
  let dayOfYear := dayOfEra - (365 * yearOfEra + yearOfEra / 4 - yearOfEra / 100)
  let monthFromMarch := (5 * dayOfYear + 2) / 153
  let day := dayOfYear - (153 * monthFromMarch + 2) / 5 + 1
  let month := if monthFromMarch < 10 then monthFromMarch + 3 else monthFromMarch - 9
  let year := yearOfEra + era * 400
  (if month ≤ 2 then year + 1 else year, month.toNat, day.toNat)

/-- The moment a number of seconds later. The years have to lie between 1900 and 9999. -/
def shift? (moment : Moment) (seconds : Int) : Option Moment :=
  let total := (moment.hour * 3600 + moment.minute * 60 + moment.second : Nat) + seconds
  let days := total.fdiv 86400
  let rest := (total - days * 86400).toNat
  let (year, month, day) := dateOfDay (dayNumber moment.year moment.month moment.day + days)
  if 1900 ≤ year ∧ year ≤ 9999 then
    some ⟨year, month, day, rest / 3600, rest / 60 % 60, rest % 60⟩
  else
    none

/-- The value of a decimal digit. -/
def digit? (byte : UInt8) : Option Nat :=
  if 48 ≤ byte ∧ byte ≤ 57 then some (byte.toNat - 48) else none

/-- The number of two digits within bounds, and the bytes after it. -/
def twoDigits? (low high : Nat) : Bytes → Option (Nat × Bytes)
  | tens :: ones :: rest => do
    let number := 10 * (← digit? tens) + (← digit? ones)
    if low ≤ number ∧ number ≤ high then some (number, rest) else none
  | _ => none

/-- The year, in two digits or in four. -/
def year? (tag : Asn1.Tag) (text : Bytes) : Option (Int × Bytes) := do
  if tag = .utcTime then
    let (short, rest) ← twoDigits? 0 99 text
    return (if short < 50 then 2000 + short else 1900 + short, rest)
  else
    let (century, rest) ← twoDigits? 0 99 text
    let (short, rest) ← twoDigits? 0 99 rest
    return (100 * century + short, rest)

/-- Whether the seconds are left out: the time zone follows. -/
def zoneFollows : Bytes → Bool
  | byte :: _ => byte = 0x5a ∨ byte = 0x2b ∨ byte = 0x2d
  | [] => false

/-- A fraction of a second with its point, if there is one and the tag allows it, and the bytes
after it. The fraction has at least one digit. -/
def fraction? (tag : Asn1.Tag) (text : Bytes) : Option (Bytes × Bytes) :=
  match text with
  | 0x2e :: rest =>
    if tag = .generalizedTime then
      let digits := rest.takeWhile fun byte => (digit? byte).isSome
      if digits = [] then none else some (0x2e :: digits, rest.drop digits.length)
    else
      some ([], text)
  | _ => some ([], text)

/-- The number of seconds by which the time is ahead of the time that is shown. -/
def zone? (text : Bytes) : Option Int :=
  match text with
  | [0x5a] => some 0
  | sign :: rest => do
    let (hours, rest) ← twoDigits? 0 12 rest
    let (minutes, rest) ← twoDigits? 0 59 rest
    let seconds : Int := hours * 3600 + minutes * 60
    if rest ≠ [] then none
    else if sign = 0x2b then some (-seconds)
    else if sign = 0x2d then some seconds
    else none
  | [] => none

/-- The moment that is written. -/
def ofText? (time : TimeText) : Option Moment := do
  let (year, rest) ← year? time.tag time.text
  let (month, rest) ← twoDigits? 1 12 rest
  let (day, rest) ← twoDigits? 1 (daysInMonth year month) rest
  let (hour, rest) ← twoDigits? 0 23 rest
  let (minute, rest) ← twoDigits? 0 59 rest
  let (second, rest) ← if zoneFollows rest then some (0, rest) else twoDigits? 0 59 rest
  let (_, rest) ← fraction? time.tag rest
  let distance ← zone? rest
  let moment : Moment := ⟨year, month, day, hour, minute, second⟩
  if distance = 0 then some moment else moment.shift? distance

/-- The names of the months. -/
def monthNames : List String :=
  ["Jan", "Feb", "Mar", "Apr", "May", "Jun", "Jul", "Aug", "Sep", "Oct", "Nov", "Dec"]

/-- A number in two columns, filled up with a given character. -/
def twoColumns (fill : Char) (number : Nat) : String :=
  (if number < 10 then fill.toString else "") ++ toString number

/-- The fraction of a second as it is shown: it is looked for behind 14 characters. -/
def shownFraction (time : TimeText) : String :=
  if time.tag = .generalizedTime ∧ 15 < time.text.length then
    match time.text.drop 14 with
    | 0x2e :: rest =>
      "." ++ String.ofList ((rest.takeWhile fun byte => (digit? byte).isSome).map fun byte =>
        Char.ofNat byte.toNat)
    | _ => ""
  else
    ""

/-- A moment as it is shown, with a given fraction of a second. -/
def text (fraction : String) (moment : Moment) : String :=
  monthNames.getD (moment.month - 1) "" ++ " " ++ twoColumns ' ' moment.day ++ " " ++
    twoColumns '0' moment.hour ++ ":" ++ twoColumns '0' moment.minute ++ ":" ++
    twoColumns '0' moment.second ++ fraction ++ " " ++ toString moment.year ++ " GMT"

/-- How a moment that is written is shown. -/
def display (time : TimeText) : String :=
  match ofText? time with
  | none => "Bad time value"
  | some moment => moment.text (shownFraction time)

end Moment

end OwnerKeys
