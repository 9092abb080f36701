import BoundKey.Certificate.Instant
import BoundKey.Proofs.Der

set_option autoImplicit false

/-!
Points in time written and read again. A number of days comes apart into an era
of four hundred years, a year of it, a month counted from March on and a day;
the parts make up the calendar day, and counting its days leads back. So an
instant up to the end of the year 9999 is read from its digits as it was
written.
-/

namespace BoundKey.Instant

open Der (Element Tag)

/-! ### Years and months -/

def yearStart (year : Nat) : Nat :=
  365 * year + year / 4 - year / 100

/-- The days of a year, counted from March on, before one of its months. -/
def monthStart (month : Nat) : Nat :=
  (153 * month + 2) / 5

theorem year_bounds {inEra year : Nat} (below : inEra < eraDays)
    (years :
      (inEra - inEra / 1460 + inEra / 36524 - inEra / 146096) / 365 = year) :
    year < 400 ∧ yearStart year ≤ inEra ∧ inEra ≤ yearStart year + 365 := by
  change inEra < 146097 at below
  have few : inEra / 36524 = 0 ∨ inEra / 36524 = 1 ∨ inEra / 36524 = 2 ∨
      inEra / 36524 = 3 ∨ inEra / 36524 = 4 := by
    omega
  -- The last day of an era is the only one that a whole number of centuries
  -- does not leave in its century.
  have centuries : year / 100 + inEra / 146096 = inEra / 36524 := by
    rcases few with century | century | century | century | century <;> omega
  have least : 365 * year + inEra / 1460 ≤ inEra + year / 100 := by omega
  have most : inEra + year / 100 ≤ 365 * year + inEra / 1460 + 364 := by omega
  clear years
  have leaps : year / 4 ≤ inEra / 1460 := by omega
  have leapsAtMost : inEra / 1460 ≤ year / 4 + 1 := by omega
  rw [yearStart]
  omega

theorem month_bounds {inYear month : Nat} (short : inYear ≤ 365)
    (months : (5 * inYear + 2) / 153 = month) :
    month ≤ 11 ∧ monthStart month ≤ inYear ∧ inYear < monthStart month + 31 := by
  rw [monthStart]
  omega

/-! ### Calendar days -/

namespace Day

/-- The calendar day of a year and a month that are counted from March on. -/
def fromMarch (year month day : Nat) : Day :=
  if month < 10 then ⟨year, month + 3, day + 1⟩
  else ⟨year + 1, month - 9, day + 1⟩

theorem ofCount_eq {count era inEra year month : Nat}
    (eras : (count + epochOffset) / eraDays = era)
    (rest : (count + epochOffset) % eraDays = inEra)
    (years : (inEra - inEra / 1460 + inEra / 36524 - inEra / 146096) / 365 = year)
    (months : (5 * (inEra - yearStart year) + 2) / 153 = month)
    (twelve : month ≤ 11) :
    ofCount count = fromMarch (year + era * 400) month
      (inEra - yearStart year - monthStart month) := by
  rw [yearStart] at months
  simp only [ofCount, eras, rest, years, months, fromMarch, yearStart, monthStart]
  by_cases early : month < 10
  · have after : ¬ month + 3 ≤ 2 := by omega
    simp only [if_pos early, if_neg after, Nat.add_zero]
  · have before : month - 9 ≤ 2 := by omega
    simp only [if_neg early, if_pos before]

theorem exists_parts (count : Nat) :
    ∃ era year month day, year < 400 ∧ month ≤ 11 ∧ day < 31 ∧
    era * eraDays + (yearStart year + monthStart month + day) =
      count + epochOffset ∧
    yearStart year + monthStart month + day < eraDays ∧
    ofCount count = fromMarch (year + era * 400) month day := by
  obtain ⟨era, eras⟩ : ∃ era, (count + epochOffset) / eraDays = era := ⟨_, rfl⟩
  obtain ⟨inEra, rest⟩ : ∃ inEra, (count + epochOffset) % eraDays = inEra :=
    ⟨_, rfl⟩
  have below := Nat.mod_lt (count + epochOffset) (show 0 < eraDays by decide)
  have whole := Nat.div_add_mod' (count + epochOffset) eraDays
  rw [rest] at below
  rw [eras, rest] at whole
  obtain ⟨year, years⟩ : ∃ year,
      (inEra - inEra / 1460 + inEra / 36524 - inEra / 146096) / 365 = year :=
    ⟨_, rfl⟩
  obtain ⟨few, least, most⟩ := year_bounds below years
  obtain ⟨month, months⟩ : ∃ month, (5 * (inEra - yearStart year) + 2) / 153 =
      month := ⟨_, rfl⟩
  obtain ⟨twelve, first, last⟩ := month_bounds (by omega) months
  have joined : yearStart year + monthStart month +
      (inEra - yearStart year - monthStart month) = inEra := by omega
  refine ⟨era, year, month, inEra - yearStart year - monthStart month, few,
    twelve, by omega, ?_, ?_, ofCount_eq eras rest years months twelve⟩
  · rw [joined, whole]
  · rw [joined]
    exact below

theorem count_fromMarch {era year month day : Nat} (few : year < 400)
    (twelve : month ≤ 11) : count (fromMarch (year + era * 400) month day) =
      era * eraDays + (yearStart year + monthStart month + day) -
        epochOffset := by
  have eras : (year + era * 400) / 400 = era := by omega
  have years : (year + era * 400) % 400 = year := by omega
  rw [fromMarch]
  by_cases early : month < 10
  · have after : ¬ month + 3 ≤ 2 := by omega
    have late : 2 < month + 3 := by omega
    simp only [count, if_pos early, if_neg after, if_pos late, eras, years,
      yearStart, monthStart, Nat.add_sub_cancel]
    omega
  · have before : month - 9 ≤ 2 := by omega
    have back : month - 9 + 9 = month := by omega
    simp only [count, if_neg early, if_pos before, if_neg (Nat.not_lt.2 before),
      Nat.add_sub_cancel, eras, years, back, yearStart, monthStart]
    omega

theorem count_ofCount (days : Nat) : count (ofCount days) = days := by
  obtain ⟨era, year, month, day, few, twelve, -, whole, -, same⟩ :=
    exists_parts days
  rw [same, count_fromMarch few twelve, whole, Nat.add_sub_cancel]

structure IsWritable (day : Day) : Prop where
  first : 1970 ≤ day.year
  last : day.year ≤ 9999
  month : day.month < 100
  day : day.day < 100

theorem isWritable_ofCount {count : Nat} (small : count ≤ maxSeconds / 86400) :
    (ofCount count).IsWritable := by
  obtain ⟨era, year, month, day, few, twelve, short, whole, below, same⟩ :=
    exists_parts count
  change count ≤ 2932896 at small
  change _ = count + 719468 at whole
  change _ < 146097 at below
  rw [show eraDays = 146097 from rfl, yearStart, monthStart] at whole
  rw [yearStart, monthStart] at below
  have eras : era = 4 ∨ 5 ≤ era ∧ era ≤ 23 ∨ era = 24 := by omega
  rw [same, fromMarch]
  by_cases early : month < 10
  · rw [if_pos early]
    constructor <;> dsimp only <;> omega
  · rw [if_neg early]
    constructor <;> dsimp only <;> omega

end Day

/-! ### Digits -/

theorem pair?_digits {number : Nat} (small : number < 100) :
    pair? (UInt8.ofNat (48 + number / 10)) (UInt8.ofNat (48 + number % 10)) =
      some number := by
  have high : (UInt8.ofNat (48 + number / 10)).toNat = 48 + number / 10 :=
    Bytes.toNat_byte (by omega)
  have low : (UInt8.ofNat (48 + number % 10)).toNat = 48 + number % 10 :=
    Bytes.toNat_byte (by omega)
  simp only [pair?, UInt8.le_iff_toNat_le, high, low]
  rw [if_pos ⟨Nat.le_add_right _ _, by change _ ≤ 57; omega,
    Nat.le_add_right _ _, by change _ ≤ 57; omega⟩]
  congr 1
  omega

theorem pairs?_twoDigits {number : Nat} (small : number < 100) (rest : Bytes) :
    pairs? (twoDigits number ++ rest) = (pairs? rest).map (number :: ·) := by
  change pairs? (_ :: _ :: rest) = _
  rw [pairs?, pair?_digits small]
  cases pairs? rest with
  | none => rfl
  | some numbers => rfl

theorem ofNumbers_eq {instant : Instant} {year month day : Nat}
    (same : Day.ofCount (instant.seconds / 86400) = ⟨year, month, day⟩) :
    ofNumbers year month day (instant.seconds % 86400 / 3600)
      (instant.seconds % 86400 / 60 % 60)
      (instant.seconds % 86400 % 60) = instant := by
  have whole :
      instant.seconds / 86400 * 86400 + instant.seconds % 86400 / 3600 * 3600 +
      instant.seconds % 86400 / 60 % 60 * 60 + instant.seconds % 86400 % 60 =
      instant.seconds := by omega
  rw [ofNumbers, ← same, Day.count_ofCount, whole]

variable {element : Element} {instant : Instant}
  {century year month day hour minute second : Nat}

theorem ofElement?_of_six
    (read : pairs? element.contents =
      some [year, month, day, hour, minute, second])
    (written : ofNumbers (if year < 50 then 2000 + year else 1900 + year) month
      day hour minute second = instant)
    (back : instant.toElement = element) : ofElement? element = some instant := by
  rw [ofElement?, read, Option.bind_eq_bind, Option.bind_some]
  dsimp only
  rw [Option.bind_eq_bind, Option.bind_some, written, if_pos back]

theorem ofElement?_of_seven
    (read : pairs? element.contents =
      some [century, year, month, day, hour, minute, second])
    (written : ofNumbers (century * 100 + year) month day hour minute
      second = instant)
    (back : instant.toElement = element) : ofElement? element = some instant := by
  rw [ofElement?, read, Option.bind_eq_bind, Option.bind_some]
  dsimp only
  rw [Option.bind_eq_bind, Option.bind_some, written, if_pos back]

theorem isReadable_toElement (instant : Instant) :
    instant.toElement.tag.IsReadable := by
  rw [toElement]
  split
  · exact (by decide : Tag.utcTime.IsReadable)
  · exact (by decide : Tag.generalizedTime.IsReadable)

/-- An instant is read as it was written, up to the last second of the year
9999. -/
theorem ofElement?_toElement {instant : Instant}
    (small : instant.seconds ≤ maxSeconds) :
    ofElement? instant.toElement = some instant := by
  have writable :=
    Day.isWritable_ofCount (Nat.div_le_div_right (c := 86400) small)
  have hours : instant.seconds % 86400 / 3600 < 100 := by omega
  have minutes : instant.seconds % 86400 / 60 % 60 < 100 := by omega
  have seconds : instant.seconds % 86400 % 60 < 100 := by omega
  have closing : pairs? [0x5a] = some [] := rfl
  cases same : Day.ofCount (instant.seconds / 86400) with
  | mk year month day =>
      rw [same] at writable
      obtain ⟨first, last, fewMonths, fewDays⟩ := writable
      dsimp only at first last fewMonths fewDays
      by_cases short : year ≤ lastShortYear
      · have numbers : pairs? instant.toElement.contents =
            some [year % 100, month, day, instant.seconds % 86400 / 3600,
            instant.seconds % 86400 / 60 % 60, instant.seconds % 86400 % 60] := by
          simp only [toElement, same, if_pos short, List.append_assoc,
            pairs?_twoDigits, fewMonths, fewDays, hours,
            minutes, seconds, closing, Nat.mod_lt year (show 0 < 100 by decide),
            Option.map_some]
        have full : (if year % 100 < 50 then 2000 + year % 100
          else 1900 + year % 100) = year := by
          change year ≤ 2049 at short
          split <;> omega
        refine ofElement?_of_six numbers ?_ rfl
        rw [full, ofNumbers_eq same]
      · have century : year / 100 < 100 := by omega
        have numbers : pairs? instant.toElement.contents =
            some [year / 100, year % 100, month, day,
            instant.seconds % 86400 / 3600, instant.seconds % 86400 / 60 % 60,
            instant.seconds % 86400 % 60] := by
          simp only [toElement, same, if_neg short, List.append_assoc,
            pairs?_twoDigits, fewMonths, fewDays, hours,
            minutes, seconds, closing, century,
            Nat.mod_lt year (show 0 < 100 by decide), Option.map_some]
        refine ofElement?_of_seven numbers ?_ rfl
        rw [Nat.div_add_mod', ofNumbers_eq same]

end BoundKey.Instant
