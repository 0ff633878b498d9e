set_option autoImplicit false
set_option relaxedAutoImplicit false

/-!
# Days of the Gregorian calendar

Years run from 1 to 9999. A day is numbered by the count of days since the start of year 1, which
orders days of different months and years.
-/

namespace Criteria

inductive CalendarFault
  | year (year : Nat)
  | month
  | day
  | hour
  | minute
  | second
  | offset (seconds : Int)
  deriving DecidableEq, Repr

structure Date where
  year : Nat
  month : Nat
  day : Nat
  deriving DecidableEq, Repr

namespace Date

/-- Every fourth year is a leap year, but of the centuries only every fourth. -/
def isLeap (year : Nat) : Bool := year % 4 == 0 && (year % 100 != 0 || year % 400 == 0)

def daysInMonth (year month : Nat) : Nat :=
  if month == 2 then (if isLeap year then 29 else 28)
  else if month == 4 || month == 6 || month == 9 || month == 11 then 30
  else 31

/-- The day with the given fields, which are checked from the year down. -/
def make (year month day : Nat) : Except CalendarFault Date :=
  if year < 1 || year > 9999 then .error (.year year)
  else if month < 1 || month > 12 then .error .month
  else if day < 1 || day > daysInMonth year month then .error .day
  else .ok ⟨year, month, day⟩

/-- The number of days before a year. -/
def daysBeforeYear (year : Nat) : Nat :=
  let past := year - 1
  past * 365 + past / 4 - past / 100 + past / 400

/-- The number of days of a year before a month. -/
def daysBeforeMonth (year month : Nat) : Nat :=
  (List.range (month - 1)).foldl (fun days earlier => days + daysInMonth year (earlier + 1)) 0

/-- The number of a day, the first day of year 1 being day 1. -/
def ordinal (d : Date) : Nat := daysBeforeYear d.year + daysBeforeMonth d.year d.month + d.day

def order (a b : Date) : Ordering := compare a.ordinal b.ordinal

def padded (width n : Nat) : String :=
  let digits := Nat.toDigits 10 n
  String.ofList (List.replicate (width - digits.length) '0' ++ digits)

/-- The text `YYYY-MM-DD`. -/
def text (d : Date) : String := padded 4 d.year ++ "-" ++ padded 2 d.month ++ "-" ++ padded 2 d.day

def readDigits? : Nat → List Char → Option (Nat × List Char)
  | 0, rest => some (0, rest)
  | count + 1, c :: rest =>
    if c.isDigit then
      (readDigits? count rest).map fun (n, rest) => ((c.toNat - 48) * Nat.pow 10 count + n, rest)
    else none
  | _ + 1, [] => none

/-- A day at the front of a text, written `YYYY-MM-DD`, and the rest. -/
def read? (text : List Char) : Option (Date × List Char) := do
  let (year, rest) ← readDigits? 4 text
  let ('-' :: rest) := rest | none
  let (month, rest) ← readDigits? 2 rest
  let ('-' :: rest) := rest | none
  let (day, rest) ← readDigits? 2 rest
  match make year month day with
  | .ok d => some (d, rest)
  | .error _ => none

def ofText? (text : String) : Option Date :=
  match read? text.toList with
  | some (d, []) => some d
  | _ => none

end Date

end Criteria
