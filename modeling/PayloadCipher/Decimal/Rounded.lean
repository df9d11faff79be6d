import PayloadCipher.Decimal.Shortest

/-! Numbers rounded to a number of decimal digits, counted behind the point or from the first one. A
tie goes to the even digit. -/

namespace PayloadCipher.Decimal

def Binary64.magnitude (x : Binary64) : Ratio :=
  Ratio.scaled x.coefficient 2 ((x.scale : Int) - 1074)

namespace Ratio

def roundedAt (r : Ratio) (exponent : Int) : Nat :=
  if 0 ≤ exponent then Binary64.roundDiv r.num (r.den * Nat.pow 10 exponent.toNat)
  else Binary64.roundDiv (r.num * Nat.pow 10 (-exponent).toNat) r.den

/-- The number with `count` digits. Rounding may reach the next power of ten, which has one more. -/
def rounded (r : Ratio) (count : Nat) : GridPoint :=
  if r.num = 0 then ⟨0, 1 - (count : Int)⟩
  else
    let exponent := r.decimalExponent - count
    let digits := r.roundedAt exponent
    if digitCount digits = count + 1 then ⟨digits / 10, exponent + 1⟩ else ⟨digits, exponent⟩

end Ratio

def withPoint (keep : Bool) (front back : List Char) : List Char :=
  if back = [] then front ++ (if keep then ['.'] else []) else front ++ '.' :: back

def withoutEndZeros (cs : List Char) : List Char := (cs.reverse.dropWhile (· == '0')).reverse

def exponentPart (exponent : Int) : List Char :=
  'e' :: (if exponent < 0 then '-' else '+') :: padLeft 2 (Nat.toDigits 10 exponent.natAbs)

namespace Ratio

variable (r : Ratio) (keep : Bool)

def fixed (places : Nat) : List Char :=
  let digits := padLeft (places + 1) (Nat.toDigits 10 (r.roundedAt (-places)))
  let whole := digits.length - places
  withPoint keep (digits.take whole) (digits.drop whole)

def exponential (places : Nat) : List Char :=
  let d := r.rounded (places + 1)
  let digits := padLeft (places + 1) (Nat.toDigits 10 d.digits)
  withPoint keep (digits.take 1) (digits.drop 1) ++ exponentPart (d.exponent + places)

/-- Positional from `1e-4` on, as long as `count` digits reach the point. Zeros at the end stay only
with the point. -/
def general (count : Nat) : List Char :=
  let d := r.rounded count
  let digits := padLeft count (Nat.toDigits 10 d.digits)
  let leading := d.exponent + count - 1
  let trimmed (cs : List Char) := if keep then cs else withoutEndZeros cs
  if -4 ≤ leading ∧ leading < 0 then
    withPoint keep ['0'] (trimmed (List.replicate (-leading - 1).toNat '0' ++ digits))
  else if 0 ≤ leading ∧ leading < count then
    withPoint keep (digits.take (leading + 1).toNat) (trimmed (digits.drop (leading + 1).toNat))
  else withPoint keep (digits.take 1) (trimmed (digits.drop 1)) ++ exponentPart leading

end Ratio
end PayloadCipher.Decimal
