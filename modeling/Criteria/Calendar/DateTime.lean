import Criteria.Calendar.Date

set_option autoImplicit false
set_option relaxedAutoImplicit false

/-!
# Times of a day

A `DateTime` is a day and a time of it, with or without an offset from universal time. Times with
offsets are compared as instants, times without as they are written, and a time with an offset is
neither before, after nor equal to one without.
-/

namespace Criteria

/-- A time of a day; the offset from universal time is in seconds. -/
structure DateTime where
  date : Date
  hour : Nat
  minute : Nat
  second : Nat
  micro : Nat
  offset : Option Int
  deriving DecidableEq, Repr

namespace DateTime

def daySeconds : Nat := 86400

/-- The time with the given fields, which are checked in their order. -/
def make (date : Date) (hour minute second micro : Nat) (offset : Option Int) :
    Except CalendarFault DateTime :=
  if hour > 23 then .error .hour
  else if minute > 59 then .error .minute
  else if second > 59 then .error .second
  else .ok ⟨date, hour, minute, second, micro, offset⟩

def checkOffset (seconds : Int) : Except CalendarFault Int :=
  if seconds.natAbs < daySeconds then .ok seconds else .error (.offset seconds)

def wallMicros (t : DateTime) : Int :=
  (((t.date.ordinal * 24 + t.hour) * 60 + t.minute) * 60 + t.second : Nat) * 1000000 + t.micro

def instant (t : DateTime) (offset : Int) : Int := t.wallMicros - offset * 1000000

/-- Earlier times come first; with and without an offset there is no order. Every offset is a fixed one:
zones whose clocks are set back, where one hour of the wall clock comes twice, are left out. -/
def order? (a b : DateTime) : Option Ordering :=
  match a.offset, b.offset with
  | none, none => some (compare a.wallMicros b.wallMicros)
  | some p, some q => some (compare (a.instant p) (b.instant q))
  | _, _ => none

/-- Whether two times are the same instant, or written the same where neither has an offset. -/
def same (a b : DateTime) : Bool := a.order? b == some .eq

/-- The text `+HH:MM` of an offset, with seconds where there are any. -/
def offsetText (offset : Int) : String :=
  let total := offset.natAbs
  (if offset < 0 then "-" else "+") ++ Date.padded 2 (total / 3600) ++ ":"
    ++ Date.padded 2 (total / 60 % 60)
    ++ (if total % 60 == 0 then "" else ":" ++ Date.padded 2 (total % 60))

/-- The text of a time after its day: microseconds and offset only where there are any. -/
def clockText (t : DateTime) : String :=
  Date.padded 2 t.hour ++ ":" ++ Date.padded 2 t.minute ++ ":" ++ Date.padded 2 t.second
    ++ (if t.micro == 0 then "" else "." ++ Date.padded 6 t.micro)
    ++ (match t.offset with | none => "" | some offset => offsetText offset)

def text (t : DateTime) (separator : String) : String := t.date.text ++ separator ++ t.clockText

def readMicros (digits : List Char) : Nat :=
  let six := digits.take 6
  six.foldl (fun n c => n * 10 + (c.toNat - 48)) 0 * Nat.pow 10 (6 - six.length)

/-- An offset at the end of a text: `+HH:MM`, with seconds if given. -/
def readOffset? : List Char → Option (Option Int)
  | [] => some none
  | sign :: rest => do
    let (hours, rest) ← Date.readDigits? 2 rest
    let (':' :: rest) := rest | none
    let (minutes, rest) ← Date.readDigits? 2 rest
    let seconds ← match rest with
      | [] => some 0
      | ':' :: rest =>
        match Date.readDigits? 2 rest with
        | some (seconds, []) => some seconds
        | _ => none
      | _ => none
    let total : Int := (hours * 60 + minutes) * 60 + seconds
    if sign == '+' then some (some total) else if sign == '-' then some (some (-total)) else none

def ofText? (text : String) : Option DateTime := do
  let (date, rest) ← Date.read? text.toList
  let (_ :: rest) := rest | none
  let (hour, rest) ← Date.readDigits? 2 rest
  let (':' :: rest) := rest | none
  let (minute, rest) ← Date.readDigits? 2 rest
  let (':' :: rest) := rest | none
  let (second, rest) ← Date.readDigits? 2 rest
  let (micro, rest) :=
    match rest with
    | '.' :: rest => (readMicros (rest.takeWhile Char.isDigit), rest.dropWhile Char.isDigit)
    | rest => (0, rest)
  let offset ← readOffset? rest
  match make date hour minute second micro offset with
  | .ok t => some t
  | .error _ => none

end DateTime

end Criteria
