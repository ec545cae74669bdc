/-!
# Timestamps

A local date and time with its offset from universal time, and its text in the Internet profile of
the date format. The profile has four digits for the year, two for the hours of the offset and none
for its seconds; what does not fit has no text.
-/

namespace SupervisoryLadder.Project

/-- A local date and time and its offset from universal time. The parts of the offset have one
sign. -/
structure Timestamp where
  year : Int
  month : Nat
  day : Nat
  hour : Nat
  minute : Nat
  second : Nat
  nanosecond : Nat
  offsetHours : Int
  offsetMinutes : Int
  offsetSeconds : Int
  deriving DecidableEq

/-- The part of a timestamp that has no text. -/
inductive TimestampError where
  | year
  | offsetHour
  | offsetSecond
  deriving DecidableEq

/-- The text of an error. -/
def TimestampError.message (error : TimestampError) : String :=
  "The " ++ component error ++ " component cannot be formatted into the requested format."
where
  component : TimestampError → String
    | .year => "year"
    | .offsetHour => "offset_hour"
    | .offsetSecond => "offset_second"

/-- A number with zeros before it, of `width` digits at least. -/
def padded (width number : Nat) : String :=
  let digits := Nat.repr number
  String.ofList (List.replicate (width - digits.length) '0') ++ digits

namespace Timestamp

/-- The fraction of the second, without zeros at its end; nothing for a whole second. -/
def fractionText (nanosecond : Nat) : String :=
  if nanosecond = 0 then ""
  else
    let digits := (padded 9 nanosecond).toList
    "." ++ String.ofList (digits.reverse.dropWhile (fun digit => digit == '0')).reverse

/-- The offset: a letter for none, else the sign, hours and minutes. -/
def offsetText (timestamp : Timestamp) : String :=
  if timestamp.offsetHours = 0 ∧ timestamp.offsetMinutes = 0 then "Z"
  else
    let sign :=
      if timestamp.offsetHours < 0 ∨ timestamp.offsetMinutes < 0 then "-" else "+"
    sign ++ padded 2 timestamp.offsetHours.natAbs ++ ":" ++
      padded 2 timestamp.offsetMinutes.natAbs

/-- The text of a timestamp. -/
def text (timestamp : Timestamp) : Except TimestampError String :=
  if timestamp.year < 0 then .error .year
  else if 23 < timestamp.offsetHours.natAbs then .error .offsetHour
  else if timestamp.offsetSeconds ≠ 0 then .error .offsetSecond
  else .ok (padded 4 timestamp.year.toNat ++ "-" ++ padded 2 timestamp.month ++ "-" ++
    padded 2 timestamp.day ++ "T" ++ padded 2 timestamp.hour ++ ":" ++
    padded 2 timestamp.minute ++ ":" ++ padded 2 timestamp.second ++
    fractionText timestamp.nanosecond ++ timestamp.offsetText)

end Timestamp

end SupervisoryLadder.Project
