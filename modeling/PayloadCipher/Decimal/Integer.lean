/-! Integers in decimal digits, a minus sign before the negative ones. Those with too many digits are
not written. -/

namespace PayloadCipher.Decimal

def writeNat (n : Nat) : List Char := Nat.toDigits 10 n

def writeInt (i : Int) : List Char :=
  if i < 0 then '-' :: writeNat i.natAbs else writeNat i.natAbs

def integerText (i : Int) : String := String.ofList (writeInt i)

/-- The least number with more than 4300 digits. The power is taken in two steps, since no evaluation
takes one with a large exponent at once. -/
def firstTooLong : Nat := Nat.pow (Nat.pow 10 100) 43

def isTooLong (i : Int) : Bool := firstTooLong ≤ i.natAbs

theorem isTooLong_of_natAbs_le {i : Int} (h : i.natAbs ≤ 100) : isTooLong i = false := by
  have hfirst : 100 < firstTooLong := by decide +kernel
  rw [isTooLong, decide_eq_false_iff_not]
  omega

end PayloadCipher.Decimal
