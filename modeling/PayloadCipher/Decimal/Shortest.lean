import PayloadCipher.Decimal.Binary64

/-! The shortest decimal that reads back as a given binary64 number, and its layout. The reals
that round to the number form an interval around it, ends included when the coefficient is
even. The first of the decimal grids with 1, 2, … 17 digits that has a point in the interval
gives the digits; of two points the nearer is taken, of equally near ones the even. -/

namespace PayloadCipher.Decimal

/-- The point `digits · 10 ^ exponent` of a decimal grid. -/
structure GridPoint where
  digits : Nat
  exponent : Int
deriving DecidableEq, Repr

structure Ratio where
  num : Nat
  den : Nat

def Ratio.scaled (num : Nat) (base : Nat) (exponent : Int) : Ratio :=
  if 0 ≤ exponent then ⟨num * base.pow exponent.toNat, 1⟩
  else ⟨num, base.pow (-exponent).toNat⟩

def Ratio.lt (x y : Ratio) : Bool := x.num * y.den < y.num * x.den

/-- A number and the two ends of the interval that rounds to it. -/
structure Neighbourhood where
  value : Ratio
  low : Ratio
  high : Ratio
  closed : Bool

/-- The lower half gap is half as wide at a power of two, the least normal number apart. -/
def Binary64.neighbourhood (x : Binary64) : Neighbourhood :=
  let m := x.coefficient
  let exponent : Int := (x.scale : Int) - 1076
  let below := if x.fractionField = 0 ∧ 1 < x.exponentField then 4 * m - 1 else 4 * m - 2
  { value := Ratio.scaled (4 * m) 2 exponent
    low := Ratio.scaled below 2 exponent
    high := Ratio.scaled (4 * m + 2) 2 exponent
    closed := m % 2 == 0 }

def Neighbourhood.contains (v : Neighbourhood) (d : GridPoint) : Bool :=
  let r := Ratio.scaled d.digits 10 d.exponent
  if v.closed then !r.lt v.low && !v.high.lt r else v.low.lt r && r.lt v.high

/-- Whether the value is below the midpoint of two neighbours on a grid, or is that midpoint and
the lower one is even. -/
def Neighbourhood.prefersLower (v : Neighbourhood) (d : GridPoint) : Bool :=
  let middle := Ratio.scaled (10 * d.digits + 5) 10 (d.exponent - 1)
  v.value.lt middle || (!middle.lt v.value && d.digits % 2 == 0)

def Neighbourhood.pointAt? (v : Neighbourhood) (exponent : Int) : Option GridPoint :=
  let steps :=
    if 0 ≤ exponent then v.value.num / (v.value.den * Nat.pow 10 exponent.toNat)
    else v.value.num * Nat.pow 10 (-exponent).toNat / v.value.den
  let lower : GridPoint := ⟨steps, exponent⟩
  let upper : GridPoint := ⟨steps + 1, exponent⟩
  match v.contains lower, v.contains upper with
  | true, true => some (if v.prefersLower lower then lower else upper)
  | true, false => some lower
  | false, true => some upper
  | false, false => none

def digitCount (n : Nat) : Nat := (Nat.toDigits 10 n).length

def Ratio.decimalExponent (r : Ratio) : Int :=
  if r.den ≤ r.num then (digitCount (r.num / r.den) : Int)
  else
    let zeros := digitCount (r.den / r.num)
    if r.num * Nat.pow 10 zeros < r.den then -(zeros : Int)
    else if r.num * Nat.pow 10 (zeros - 1) < r.den then -((zeros : Int) - 1)
    else -((zeros : Int) - 2)

def Neighbourhood.search (v : Neighbourhood) (top : Int) : Nat → Nat → GridPoint
  | 0, count => ⟨0, top - count⟩
  | fuel + 1, count =>
    match v.pointAt? (top - (count + 1 : Nat)) with
    | some d => d
    | none => v.search top fuel (count + 1)

def GridPoint.trim (d : GridPoint) : Nat → GridPoint
  | 0 => d
  | fuel + 1 =>
    if d.digits ≠ 0 ∧ d.digits % 10 = 0 then
      GridPoint.trim ⟨d.digits / 10, d.exponent + 1⟩ fuel
    else d

def Binary64.shortest (x : Binary64) : GridPoint :=
  if x.coefficient = 0 then ⟨0, 0⟩
  else
    let v := x.neighbourhood
    (v.search v.value.decimalExponent 18 0).trim 18

structure Layout where
  positionalFrom : Int
  positionalBelow : Int
  exponentMark : Char
  exponentDigits : Nat
  infinity : String
  nan : String

def Layout.plain : Layout where
  positionalFrom := -4
  positionalBelow := 16
  exponentMark := 'e'
  exponentDigits := 2
  infinity := "inf"
  nan := "nan"

def padLeft (len : Nat) (cs : List Char) : List Char := List.replicate (len - cs.length) '0' ++ cs

def positional (digits : List Char) (whole : Int) : List Char :=
  if whole ≤ 0 then '0' :: '.' :: List.replicate (-whole).toNat '0' ++ digits
  else
    let count := whole.toNat
    let front := digits.take count
    let back := digits.drop count
    front ++ List.replicate (count - front.length) '0' ++ '.' :: (if back = [] then ['0'] else back)

def scientific (layout : Layout) (digits : List Char) (exponent : Int) : List Char :=
  let front := digits.take 1
  let back := digits.drop 1
  let sign := if exponent < 0 then '-' else '+'
  front ++ (if back = [] then [] else '.' :: back) ++ layout.exponentMark :: sign ::
    padLeft layout.exponentDigits (Nat.toDigits 10 exponent.natAbs)

def Layout.write (layout : Layout) (x : Binary64) : List Char :=
  let sign := if x.isNegative then ['-'] else []
  if x.isNaN then layout.nan.toList
  else if !x.isFinite then sign ++ layout.infinity.toList
  else
    let d := x.shortest
    let digits := Nat.toDigits 10 d.digits
    let leading : Int := if d.digits = 0 then 0 else d.exponent + digits.length - 1
    sign ++
      if layout.positionalFrom ≤ leading ∧ leading < layout.positionalBelow then
        positional digits (leading + 1)
      else scientific layout digits leading

end PayloadCipher.Decimal
