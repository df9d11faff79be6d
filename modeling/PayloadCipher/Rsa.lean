import PayloadCipher.Modular
import PayloadCipher.Oaep
import PayloadCipher.Digest.Sha512

/-! RSA encryption with padded messages. The seed of the padding is an argument, so that both
directions are functions. `seal` refuses what the padding has no room for and the public keys
outside the supported sizes; `unseal` refuses everything that `seal` cannot have produced. -/

namespace PayloadCipher.Rsa

def digest : Digest := Digest.sha512

structure Seed where
  octets : Bytes
  length_octets : octets.length = digest.size

structure PublicNumbers where
  n : Nat
  e : Nat
deriving DecidableEq, Repr

structure PrivateNumbers where
  n : Nat
  e : Nat
  d : Nat
  p : Nat
  q : Nat
deriving DecidableEq, Repr

def PrivateNumbers.publicNumbers (key : PrivateNumbers) : PublicNumbers := ⟨key.n, key.e⟩

def PublicNumbers.size (key : PublicNumbers) : Nat := Bytes.width key.n

/-- Odd moduli of at most 16384 bits; above 3072 bits the exponent is limited to 64 bits. -/
def PublicNumbers.Supported (key : PublicNumbers) : Prop :=
  key.n % 2 = 1 ∧ Bytes.bitLength key.n ≤ 16384 ∧
    (3072 < Bytes.bitLength key.n → Bytes.bitLength key.e ≤ 64)

instance (key : PublicNumbers) : Decidable key.Supported := by
  unfold PublicNumbers.Supported; infer_instance

def PublicNumbers.seal (key : PublicNumbers) (seed : Seed) (m : Bytes) : Option Bytes :=
  if key.Supported then
    (Oaep.encode digest key.size seed.octets m).map fun block =>
      Bytes.ofNat key.size (powMod (Bytes.toNat block) key.e key.n)
  else none

def PrivateNumbers.unseal (key : PrivateNumbers) (c : Bytes) : Option Bytes :=
  let k := key.publicNumbers.size
  if c.length = k ∧ Bytes.toNat c < key.n then
    Oaep.decode digest (Bytes.ofNat k (powMod (Bytes.toNat c) key.d key.n))
  else none

theorem length_seal {key : PublicNumbers} {seed : Seed} {m c : Bytes}
    (h : key.seal seed m = some c) : c.length = key.size := by
  unfold PublicNumbers.seal at h
  split at h
  · obtain ⟨b, -, rfl⟩ := Option.map_eq_some_iff.1 h
    simp
  · simp at h

end PayloadCipher.Rsa
