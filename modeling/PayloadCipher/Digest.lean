import PayloadCipher.Bytes

/-! A digest of fixed size. The size law travels with the function, since masks, padding and
fingerprints are cut by it. -/

namespace PayloadCipher

structure Digest where
  size : Nat
  hash : Bytes → Bytes
  size_pos : 0 < size
  length_hash : ∀ m, (hash m).length = size

attribute [simp] Digest.length_hash

end PayloadCipher
