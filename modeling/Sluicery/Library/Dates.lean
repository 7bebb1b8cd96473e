import Mathlib
import Sluicery.Library.FormatString

/-!
# Dates

`datetime.date` with its ordinal, and `datetime.strptime` for the format
`%Y%m%d`.  The format is a regular expression whose groups take the first
alternative with which the rest of the expression fits; what it leaves of the
text, and a day which the month does not have, are errors.
-/

namespace Sluicery.Library

open FormatString (digitValue)

/-- `_is_leap`. -/
def isLeap (year : Nat) : Bool :=
  year % 4 == 0 && (year % 100 != 0 || year % 400 == 0)

/-- `_days_in_month`. -/
def daysInMonth (year month : Nat) : Nat :=
  if month = 2 then if isLeap year then 29 else 28
  else if month = 4 ∨ month = 6 ∨ month = 9 ∨ month = 11 then 30
  else 31

/-- `datetime.date`. -/
structure Date where
  year : Nat
  month : Nat
  day : Nat
  yearFits : 1 ≤ year ∧ year ≤ 9999
  monthFits : 1 ≤ month ∧ month ≤ 12
  dayFits : 1 ≤ day ∧ day ≤ daysInMonth year month
deriving DecidableEq, Repr

namespace Date

/-- `date(year, month, day)`; `none` for its `ValueError`. -/
def of (year month day : Nat) : Option Date :=
  if yearFits : 1 ≤ year ∧ year ≤ 9999 then
    if monthFits : 1 ≤ month ∧ month ≤ 12 then
      if dayFits : 1 ≤ day ∧ day ≤ daysInMonth year month then
        some { year, month, day, yearFits, monthFits, dayFits }
      else none
    else none
  else none

/-- `_days_before_year`. -/
def daysBeforeYear (year : Nat) : Nat :=
  (year - 1) * 365 + (year - 1) / 4 - (year - 1) / 100 + (year - 1) / 400

/-- `_days_before_month`. -/
def daysBeforeMonth (year month : Nat) : Nat :=
  ((List.range (month - 1)).map fun before =>
    daysInMonth year (before + 1)).sum

/-- `date.toordinal()`. -/
def toOrdinal (date : Date) : Int :=
  daysBeforeYear date.year + daysBeforeMonth date.year date.month + date.day

end Date

/-! ## `strptime` -/

/-- `%Y`, where a digit may be of any script. -/
def readYear : List Char → Option (Nat × List Char)
  | first :: second :: third :: fourth :: rest => do
      let thousands ← digitValue first
      let hundreds ← digitValue second
      let tens ← digitValue third
      let ones ← digitValue fourth
      return (thousands * 1000 + hundreds * 100 + tens * 10 + ones, rest)
  | _ => none

/-- A character from `first` to `last`, as a number. -/
def within (first last char : Char) : Option Nat :=
  if first ≤ char ∧ char ≤ last then some (char.toNat - 48) else none

/-- `[1-9]` after the given characters. -/
def afterPrefix (lead : List Char) (text : List Char) :
    Option (Nat × List Char) := do
  if lead <+: text then
    match text.drop lead.length with
    | [] => none
    | char :: rest => return (← within '1' '9' char, rest)
  else none

/-- `1[0-2]|0[1-9]|[1-9]`, the alternatives which fit, in their order. -/
def monthAlternatives (text : List Char) : List (Nat × List Char) :=
  let twoDigits :=
    match text with
    | '1' :: char :: rest => (within '0' '2' char).map fun ones =>
        (10 + ones, rest)
    | _ => none
  [twoDigits, afterPrefix ['0'] text, afterPrefix [] text].filterMap id

/-- `3[0-1]|[1-2]\d|0[1-9]|[1-9]| [1-9]`. -/
def dayAlternatives (text : List Char) : List (Nat × List Char) :=
  let thirties :=
    match text with
    | '3' :: char :: rest => (within '0' '1' char).map fun ones =>
        (30 + ones, rest)
    | _ => none
  let tens :=
    match text with
    | first :: second :: rest => do
        let ten ← within '1' '2' first
        let ones ← digitValue second
        return (ten * 10 + ones, rest)
    | _ => none
  [thirties, tens, afterPrefix ['0'] text, afterPrefix [] text,
    afterPrefix [' '] text].filterMap id

/-- `datetime.strptime(text, "%Y%m%d").date()`. -/
def strptimeDate (text : String) : Option Date := do
  let (year, afterYear) ← readYear text.toList
  let fits := (monthAlternatives afterYear).flatMap fun month =>
    (dayAlternatives month.2).map fun day => (month.1, day)
  let (month, day, rest) ← fits.head?
  if rest = [] then Date.of year month day else none

end Sluicery.Library
