/-! Binary64 numbers by their bits, in exact integer arithmetic. A finite number is
`± m · 2 ^ (q - 1074)` with `m < 2 ^ 53`; `ofDecimal` takes the number nearest to a decimal, a tie
going to the even `m`. -/

namespace PayloadCipher.Decimal

structure Binary64 where
  bits : UInt64
deriving DecidableEq, Repr

namespace Binary64

def isNegative (x : Binary64) : Bool := x.bits.toNat >>> 63 == 1

def leadingBit : Nat := 1 <<< 52

def exponentField (x : Binary64) : Nat := x.bits.toNat / leadingBit % 2048

def fractionField (x : Binary64) : Nat := x.bits.toNat % leadingBit

def isFinite (x : Binary64) : Bool := x.exponentField != 2047

def isNaN (x : Binary64) : Bool := x.exponentField == 2047 && x.fractionField != 0

def isZero (x : Binary64) : Bool := x.exponentField == 0 && x.fractionField == 0

def coefficient (x : Binary64) : Nat :=
  if x.exponentField = 0 then x.fractionField else leadingBit + x.fractionField

def scale (x : Binary64) : Nat := x.exponentField - 1

def infinityField : Nat := 2047 * leadingBit

def ofFields (negative : Bool) (magnitude : Nat) : Binary64 :=
  ⟨UInt64.ofNat ((if negative then 1 <<< 63 else 0) + min magnitude infinityField)⟩

def infinity (negative : Bool) : Binary64 := ofFields negative infinityField

def nan : Binary64 := ⟨UInt64.ofNat (infinityField + leadingBit / 2)⟩

def roundDiv (num den : Nat) : Nat :=
  let floor := num / den
  let twice := 2 * (num % den)
  if den < twice ∨ (den = twice ∧ floor % 2 = 1) then floor + 1 else floor

/-- The sign, exponent and fraction of `num / den`, both positive. The exponent is the least one
under which the coefficient stays below `2 ^ 53`. -/
def ofRatio (negative : Bool) (num den : Nat) : Binary64 :=
  let estimate := num.log2 + 1074 - den.log2 - 53
  let coefficientAt (q : Nat) : Nat := roundDiv (num <<< 1074) (den <<< q)
  let q := if num <<< 1074 < den <<< (estimate + 53) then estimate else estimate + 1
  ofFields negative (q * leadingBit + coefficientAt q)

/-- The number nearest to `± digits · 10 ^ exponent`. Exponents beyond the range of the format
are cut short, so that no power is larger than the range needs. -/
def ofDecimal (negative : Bool) (digits : Nat) (exponent : Int) : Binary64 :=
  if digits = 0 then ofFields negative 0
  else
    let magnitude := exponent + (Nat.log2 digits : Int) * 30103 / 100000
    if 400 < magnitude then infinity negative
    else if magnitude < -400 then ofFields negative 0
    else if 0 ≤ exponent then ofRatio negative (digits * Nat.pow 10 exponent.toNat) 1
    else ofRatio negative digits (Nat.pow 10 (-exponent).toNat)

def ofQuotient (num : Int) (den : Nat) : Binary64 :=
  if num = 0 then ofFields false 0 else ofRatio (num < 0) num.natAbs den

def ofInt (i : Int) : Binary64 := ofQuotient i 1

/-- A finite number, in units of the least positive one. -/
def units (x : Binary64) : Int :=
  let n : Nat := x.coefficient <<< x.scale
  if x.isNegative then -n else n

def add (x y : Binary64) : Binary64 :=
  if x.isFinite && y.isFinite then ofQuotient (x.units + y.units) (1 <<< 1074)
  else if x.isNaN || y.isNaN then nan
  else if x.isFinite then y
  else if y.isFinite || x.isNegative == y.isNegative then x
  else nan

def divide (x : Binary64) (den : Nat) : Binary64 :=
  if x.isFinite then ofQuotient x.units (den <<< 1074) else x

def floor (x : Binary64) : Int := Int.fdiv x.units (1 <<< 1074 : Nat)

def truncate (x : Binary64) : Int := Int.tdiv x.units (1 <<< 1074 : Nat)

def integer? (x : Binary64) : Option Int :=
  if x.isFinite && x.units % (1 <<< 1074 : Nat) == 0 then some x.truncate else none

end Binary64
end PayloadCipher.Decimal
