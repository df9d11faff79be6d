import PayloadCipher.Digest

/-! Optimal asymmetric encryption padding with an empty label, over any digest.
`encode` spreads a message over `k` octets with a seed of digest size; `decode` gives the
message back and refuses every string that `encode` cannot have written: the leading octet, the
label digest, the run of zeros and the separator are all checked. -/

namespace PayloadCipher.Oaep

def overhead (h : Digest) : Nat := 2 * h.size + 2

/-- The digests of the seed followed by a four-octet counter, cut to `len` octets. -/
def mask (h : Digest) (seed : Bytes) (len : Nat) : Bytes :=
  ((List.range ((len + h.size - 1) / h.size)).flatMap fun i =>
    h.hash (seed ++ Bytes.ofNat 4 i)).take len

/-- Label digest, zeros, separator and message: `k - h.size - 1` octets when the message
fits. -/
def dataBlock (h : Digest) (k : Nat) (m : Bytes) : Bytes :=
  h.hash [] ++ List.replicate (k - m.length - overhead h) 0 ++ 1 :: m

def afterSeparator : Bytes → Option Bytes
  | [] => none
  | x :: rest => if x = 0 then afterSeparator rest else if x = 1 then some rest else none

def encode (h : Digest) (k : Nat) (seed m : Bytes) : Option Bytes :=
  if m.length + overhead h ≤ k then
    let block := dataBlock h k m
    let maskedBlock := Bytes.xor block (mask h seed block.length)
    let maskedSeed := Bytes.xor seed (mask h maskedBlock h.size)
    some (0 :: maskedSeed ++ maskedBlock)
  else none

def decode (h : Digest) : Bytes → Option Bytes
  | [] => none
  | lead :: rest =>
    let maskedSeed := rest.take h.size
    let maskedBlock := rest.drop h.size
    let seed := Bytes.xor maskedSeed (mask h maskedBlock h.size)
    let block := Bytes.xor maskedBlock (mask h seed maskedBlock.length)
    if lead = 0 ∧ overhead h ≤ rest.length + 1 ∧ block.take h.size = h.hash [] then
      afterSeparator (block.drop h.size)
    else none

end PayloadCipher.Oaep
