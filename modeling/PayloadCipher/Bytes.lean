/-! Octet strings and the numbers they write in base 256, most significant octet first.
`toNat` reads any octet string; `ofNat len n` writes the `len` low octets of `n`, so the two
are inverse on numbers below `256 ^ len`. `width n` is the least length that loses nothing. -/

namespace PayloadCipher

abbrev Bytes := List UInt8

namespace Bytes

def toNat (b : Bytes) : Nat := b.foldl (fun n x => n * 256 + x.toNat) 0

/-- The `len` low octets of `n`, least significant first. -/
def lowOctets : Nat → Nat → Bytes
  | 0, _ => []
  | len + 1, n => UInt8.ofNat n :: lowOctets len (n / 256)

def ofNat (len n : Nat) : Bytes := (lowOctets len n).reverse

def bitLength (n : Nat) : Nat := if n = 0 then 0 else n.log2 + 1

def width (n : Nat) : Nat := (bitLength n + 7) / 8

/-- Octetwise exclusive or; the result is as long as the shorter operand. -/
def xor (a b : Bytes) : Bytes := List.zipWith (· ^^^ ·) a b

@[simp] theorem length_lowOctets (len n : Nat) : (lowOctets len n).length = len := by
  induction len generalizing n with
  | zero => rfl
  | succ len ih => simp [lowOctets, ih]

@[simp] theorem length_ofNat (len n : Nat) : (ofNat len n).length = len := by
  simp [ofNat]

@[simp] theorem length_xor (a b : Bytes) : (xor a b).length = min a.length b.length := by
  simp [xor]

@[simp] theorem toNat_nil : toNat [] = 0 := rfl

theorem toNat_append_singleton (b : Bytes) (x : UInt8) :
    toNat (b ++ [x]) = toNat b * 256 + x.toNat := by
  simp [toNat]

end Bytes
end PayloadCipher
