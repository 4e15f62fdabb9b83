/-!
# Days

Dates of the calendar as numbers of days from the beginning of 1970 on.
-/

namespace Flowline.Shell

/-- The days from the beginning of 1970 to a date. -/
def daysOf (year month day : Nat) : Nat :=
  let shifted := if month ≤ 2 then year - 1 else year
  let era := shifted / 400
  let ofEra := shifted - era * 400
  let ofYear := (153 * (if 2 < month then month - 3 else month + 9) + 2) / 5 + day - 1
  era * 146097 + ofEra * 365 + ofEra / 4 - ofEra / 100 + ofYear - 719468

/-- The year, the month and the day that some days after the beginning of 1970 fall on. -/
def dateOf (days : Nat) : Nat × Nat × Nat :=
  let z := days + 719468
  let era := z / 146097
  let ofEra := z - era * 146097
  let yearOfEra := (ofEra - ofEra / 1460 + ofEra / 36524 - ofEra / 146096) / 365
  let ofYear := ofEra - (365 * yearOfEra + yearOfEra / 4 - yearOfEra / 100)
  let m := (5 * ofYear + 2) / 153
  let month := if m < 10 then m + 3 else m - 9
  (yearOfEra + era * 400 + if month ≤ 2 then 1 else 0, month, ofYear - (153 * m + 2) / 5 + 1)

end Flowline.Shell
