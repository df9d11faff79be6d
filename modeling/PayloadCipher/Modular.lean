/-! Powers modulo `n` by repeated squaring: about twice as many products as the exponent has
bits, each of numbers below `n`. -/

namespace PayloadCipher

def powMod (b e n : Nat) : Nat :=
  if e = 0 then 1 % n
  else
    let half := powMod b (e / 2) n
    if e % 2 = 0 then half * half % n else half * half % n * b % n
termination_by e
decreasing_by omega

end PayloadCipher
