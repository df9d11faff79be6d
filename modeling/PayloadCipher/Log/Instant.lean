import PayloadCipher.Decimal.Integer
import PayloadCipher.Json

/-! Points in time: as a clock shows them, as numbers to count with, and in their calendar form in
universal time. Days are counted in eras of four hundred years that begin on the first of
March, so that the leap day ends a year. -/

namespace PayloadCipher.Log

/-- What a clock shows: seconds since the start of 1970, and milliseconds on top of them. Both
should be numbers. -/
structure Instant where
  seconds : Json := .int 0
  millis : Json := .int 0
deriving DecidableEq, Repr

structure Moment where
  seconds : Decimal.Binary64
  millis : Decimal.Binary64
deriving DecidableEq, Repr

structure Date where
  year : Int
  month : Int
  day : Int
deriving DecidableEq, Repr

def Date.ofDays (days : Int) : Date :=
  let shifted := days + 719468
  let era := shifted / 146097
  let dayOfEra := shifted % 146097
  let yearOfEra := (dayOfEra - dayOfEra / 1460 + dayOfEra / 36524 - dayOfEra / 146096) / 365
  let dayOfYear := dayOfEra - (365 * yearOfEra + yearOfEra / 4 - yearOfEra / 100)
  let marchMonth := (5 * dayOfYear + 2) / 153
  let month := if marchMonth < 10 then marchMonth + 3 else marchMonth - 9
  { year := yearOfEra + era * 400 + if month ≤ 2 then 1 else 0
    month := month
    day := dayOfYear - (153 * marchMonth + 2) / 5 + 1 }

def padded (len : Nat) (i : Int) : String :=
  let sign := if i < 0 then ['-'] else []
  let digits := Decimal.writeNat i.natAbs
  String.ofList (sign ++ List.replicate (len - sign.length - digits.length) '0' ++ digits)

/-- Why a clock shows no point in time, or why one has no calendar form: an operand is no number, a
number or the thousandth part of one is beyond binary64, the seconds are undefined or beyond 64
bits, the distance of the year from 1900 is beyond 32 bits, or the year itself is. -/
inductive OutOfTime where
  | undivided (typeName : String)
  | unadded (typeName : String)
  | number
  | quotient
  | undefined
  | seconds
  | calendar
  | year
deriving DecidableEq, Repr

def OutOfTime.message : OutOfTime → String
  | undivided typeName => "unsupported operand type(s) for /: '" ++ typeName ++ "' and 'int'"
  | unadded typeName =>
    if typeName = "str" ∨ typeName = "list" then
      "can only concatenate " ++ typeName ++ " (not \"float\") to " ++ typeName
    else "unsupported operand type(s) for +: '" ++ typeName ++ "' and 'float'"
  | number => "int too large to convert to float"
  | quotient => "integer division result too large for a float"
  | undefined => "Invalid value NaN (not a number)"
  | seconds => "timestamp out of range for platform time_t"
  | calendar => "[Errno 75] Value too large for defined data type"
  | year => "signed integer is greater than maximum"

namespace Instant

def inRange (fault : OutOfTime) (x : Decimal.Binary64) : Except OutOfTime Decimal.Binary64 :=
  if x.isFinite then .ok x else .error fault

def thousandth (v : Json) : Except OutOfTime Decimal.Binary64 :=
  match v.number? with
  | some (.inl i) => inRange .quotient (.ofQuotient i 1000)
  | some (.inr x) => .ok (x.divide 1000)
  | none => .error (.undivided v.typeName)

def binary (v : Json) : Except OutOfTime Decimal.Binary64 :=
  match v.number? with
  | some (.inl i) => inRange .number (.ofInt i)
  | some (.inr x) => .ok x
  | none => .error (.unadded v.typeName)

def moment (t : Instant) : Except OutOfTime Moment := do
  let fraction ← thousandth t.millis
  let seconds ← binary t.seconds
  let millis ← binary t.millis
  return ⟨seconds.add fraction, millis⟩

end Instant

namespace Moment

def second (t : Moment) : Except OutOfTime Int :=
  if t.seconds.isNaN then .error .undefined
  else if t.seconds.isFinite then
    let second := t.seconds.floor
    if -0x8000000000000000 ≤ second ∧ second < 0x8000000000000000 then .ok second
    else .error .seconds
  else .error .seconds

def dateOf (second : Int) : Except OutOfTime Date :=
  let date := Date.ofDays (second / 86400)
  if date.year - 1900 < -0x80000000 ∨ 0x7fffffff < date.year - 1900 then .error .calendar
  else if 0x7fffffff < date.year then .error .year
  else .ok date

/-- The milliseconds are shown as they were given, without a fraction. -/
def text (t : Moment) : Except OutOfTime String := do
  let second ← t.second
  let date ← dateOf second
  let clock := second % 86400
  return Decimal.integerText date.year ++ "-" ++ padded 2 date.month ++ "-" ++
    padded 2 date.day ++ " " ++ padded 2 (clock / 3600) ++ ":" ++ padded 2 (clock / 60 % 60) ++
      ":" ++ padded 2 (clock % 60) ++ "," ++ padded 3 t.millis.truncate

end Moment
end PayloadCipher.Log
