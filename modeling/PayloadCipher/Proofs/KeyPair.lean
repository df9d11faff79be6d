import Mathlib.FieldTheory.Finite.Basic
import PayloadCipher.Proofs.Octets
import PayloadCipher.Proofs.Powers
import PayloadCipher.Rsa

/-! Valid RSA key pairs and the permutation that they stand for. The two exponents undo each other
on every number below the modulus, those that share a factor with it included, so that each of
them permutes these numbers. -/

namespace PayloadCipher.Rsa

@[simp] theorem PrivateNumbers.publicNumbers_n (key : PrivateNumbers) :
    key.publicNumbers.n = key.n := rfl

@[simp] theorem PrivateNumbers.publicNumbers_e (key : PrivateNumbers) :
    key.publicNumbers.e = key.e := rfl

/-- Two odd primes, exponents that are inverse modulo the order of the units, and sizes that
encryption accepts. -/
structure PrivateNumbers.Valid (key : PrivateNumbers) : Prop where
  prime_p : key.p.Prime
  prime_q : key.q.Prime
  distinct : key.p ≠ key.q
  odd_p : Odd key.p
  odd_q : Odd key.q
  modulus_eq : key.n = key.p * key.q
  three_le_exponent : 3 ≤ key.e
  exponent_lt : key.e < key.n
  inverse : key.e * key.d ≡ 1 [MOD Nat.lcm (key.p - 1) (key.q - 1)]
  modulus_bits : Bytes.bitLength key.n ≤ 16384
  exponent_bits : 3072 < Bytes.bitLength key.n → Bytes.bitLength key.e ≤ 64

/-- An exponent that is one modulo `p - 1` does nothing modulo `p`, also to multiples of `p`. -/
theorem pow_modEq_self {p t : Nat} (hp : p.Prime) (ht : t ≡ 1 [MOD p - 1]) (pos : 0 < t)
    (x : Nat) : x ^ t ≡ x [MOD p] := by
  by_cases hx : p ∣ x
  · -- Fermat says nothing here, but both sides are zero
    have h0 : x ≡ 0 [MOD p] := (Nat.modEq_zero_iff_dvd).2 hx
    have := h0.pow t
    rw [Nat.zero_pow pos] at this
    exact this.trans h0.symm
  · have hc : Nat.Coprime x p := ((Nat.Prime.coprime_iff_not_dvd hp).2 hx).symm
    obtain ⟨r, hr⟩ := (Nat.modEq_iff_dvd' pos).1 ht.symm
    have hfermat : x ^ (p - 1) ≡ 1 [MOD p] := by
      have := Nat.ModEq.pow_totient hc
      rwa [Nat.totient_prime hp] at this
    have hsplit : x ^ t = (x ^ (p - 1)) ^ r * x := by
      rw [← Nat.pow_mul, ← hr, ← Nat.pow_succ, Nat.succ_eq_add_one, Nat.sub_add_cancel pos]
    rw [hsplit]
    simpa using (hfermat.pow r).mul_right x

namespace PrivateNumbers.Valid

variable {key : PrivateNumbers} (valid : key.Valid)
include valid

theorem modulus_odd : key.n % 2 = 1 := by
  rw [valid.modulus_eq, ← Nat.odd_iff]
  exact valid.odd_p.mul valid.odd_q

theorem supported : key.publicNumbers.Supported :=
  ⟨valid.modulus_odd, valid.modulus_bits, valid.exponent_bits⟩

theorem modulus_pos : 0 < key.n := by
  have := valid.modulus_odd
  omega

theorem exponents_pos : 0 < key.e * key.d := by
  by_contra h
  have h0 : key.e * key.d = 0 := by omega
  have h1 := valid.inverse.of_dvd (Nat.dvd_lcm_left _ _)
  rw [h0, Nat.ModEq, Nat.zero_mod] at h1
  have hp := valid.prime_p.two_le
  have hodd := Nat.odd_iff.1 valid.odd_p
  rw [Nat.mod_eq_of_lt (by omega)] at h1
  omega

theorem pow_modEq (x : Nat) : x ^ (key.e * key.d) ≡ x [MOD key.n] := by
  have hp := pow_modEq_self valid.prime_p (valid.inverse.of_dvd (Nat.dvd_lcm_left _ _))
    valid.exponents_pos x
  have hq := pow_modEq_self valid.prime_q (valid.inverse.of_dvd (Nat.dvd_lcm_right _ _))
    valid.exponents_pos x
  rw [valid.modulus_eq]
  exact (Nat.modEq_and_modEq_iff_modEq_mul
    ((Nat.coprime_primes valid.prime_p valid.prime_q).2 valid.distinct)).1 ⟨hp, hq⟩

theorem powMod_lt (x t : Nat) : powMod x t key.n < key.n := by
  rw [powMod_eq]
  exact Nat.mod_lt _ valid.modulus_pos

theorem pow_mod_eq_self {x : Nat} (hx : x < key.n) : x ^ (key.e * key.d) % key.n = x := by
  have := valid.pow_modEq x
  rwa [Nat.ModEq, Nat.mod_eq_of_lt hx] at this

theorem powMod_d_powMod_e {x : Nat} (hx : x < key.n) :
    powMod (powMod x key.e key.n) key.d key.n = x := by
  rw [powMod_eq, powMod_eq, ← Nat.pow_mod, ← Nat.pow_mul, valid.pow_mod_eq_self hx]

theorem powMod_e_powMod_d {x : Nat} (hx : x < key.n) :
    powMod (powMod x key.d key.n) key.e key.n = x := by
  rw [powMod_eq, powMod_eq, ← Nat.pow_mod, ← Nat.pow_mul, Nat.mul_comm,
    valid.pow_mod_eq_self hx]

end PrivateNumbers.Valid
end PayloadCipher.Rsa
