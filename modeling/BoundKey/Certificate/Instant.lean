import BoundKey.Der.Element
import BoundKey.Text.Decimal

set_option autoImplicit false

/-!
Points in time on certificates. An instant counts seconds from the beginning of
the year 1970; it is written with two digits of the year up to 2049 and with
four from then on, up to the end of the year 9999.
-/

namespace BoundKey

open Der (Element Tag)

/-- The seconds since the beginning of the year 1970. -/
structure Instant where
  seconds : Nat
  deriving DecidableEq, Repr

namespace Instant

structure Day where
  year : Nat
  month : Nat
  day : Nat
  deriving DecidableEq, Repr

/-- The days from the first of March of the year zero to the beginning of the
year 1970. -/
def epochOffset : Nat := 719468

def eraDays : Nat := 146097

/-- The calendar day of a number of days since the beginning of the year 1970.
Years are counted from March on, so that a leap day ends its year. -/
def Day.ofCount (count : Nat) : Day :=
  let shifted := count + epochOffset
  let inEra := shifted % eraDays
  let yearOfEra := (inEra - inEra / 1460 + inEra / 36524 - inEra / 146096) / 365
  let inYear := inEra - (365 * yearOfEra + yearOfEra / 4 - yearOfEra / 100)
  let fromMarch := (5 * inYear + 2) / 153
  let month := if fromMarch < 10 then fromMarch + 3 else fromMarch - 9
  let year := yearOfEra + shifted / eraDays * 400 + (if month ≤ 2 then 1 else 0)
  ⟨year, month, inYear - (153 * fromMarch + 2) / 5 + 1⟩

def Day.count (day : Day) : Nat :=
  let year := if day.month ≤ 2 then day.year - 1 else day.year
  let yearOfEra := year % 400
  let fromMarch := if 2 < day.month then day.month - 3 else day.month + 9
  let inYear := (153 * fromMarch + 2) / 5 + day.day - 1
  let inEra := yearOfEra * 365 + yearOfEra / 4 - yearOfEra / 100 + inYear
  year / 400 * eraDays + inEra - epochOffset

def maxSeconds : Nat := 253402300799

def lastShortYear : Nat := 2049

def twoDigits (number : Nat) : Bytes :=
  [UInt8.ofNat (48 + number / 10), UInt8.ofNat (48 + number % 10)]

def toElement (instant : Instant) : Element :=
  let day := Day.ofCount (instant.seconds / 86400)
  let inDay := instant.seconds % 86400
  let rest := twoDigits day.month ++ twoDigits day.day ++ twoDigits (inDay / 3600)
    ++ twoDigits (inDay / 60 % 60) ++ twoDigits (inDay % 60) ++ [0x5a]
  if day.year ≤ lastShortYear then
    ⟨Tag.utcTime, twoDigits (day.year % 100) ++ rest⟩
  else
    ⟨Tag.generalizedTime,
      twoDigits (day.year / 100) ++ twoDigits (day.year % 100) ++ rest⟩

def pair? (high low : UInt8) : Option Nat :=
  if 0x30 ≤ high ∧ high ≤ 0x39 ∧ 0x30 ≤ low ∧ low ≤ 0x39 then
    some ((high.toNat - 48) * 10 + (low.toNat - 48))
  else none

def pairs? : Bytes → Option (List Nat)
  | [0x5a] => some []
  | high :: low :: rest => do
    let number ← pair? high low
    let numbers ← pairs? rest
    some (number :: numbers)
  | _ => none

def ofNumbers (year month day hour minute second : Nat) : Instant :=
  ⟨Day.count ⟨year, month, day⟩ * 86400 + hour * 3600 + minute * 60 + second⟩

def ofElement? (element : Element) : Option Instant := do
  let numbers ← pairs? element.contents
  let instant ← match numbers with
    | [year, month, day, hour, minute, second] =>
      some (ofNumbers (if year < 50 then 2000 + year else 1900 + year) month day
        hour minute second)
    | [century, year, month, day, hour, minute, second] =>
      some (ofNumbers (century * 100 + year) month day hour minute second)
    | _ => none
  if instant.toElement = element then some instant else none

end Instant

end BoundKey
