import Mathlib.Data.Rat.Floor
import PayloadCipher.Proofs.Encryption

/-! How much a cipher encrypts. The bound that a cipher tells is computed from the bits of its
modulus, and the room for a message comes from the padding. Both are the same at every length of the
modulus, so the bound is exact; where the padding alone does not fit, it is zero and nothing is
encrypted. -/

namespace PayloadCipher

namespace Rsa.PublicNumbers

variable {key : PublicNumbers} {seed : Seed} {m c : Bytes}

theorem Supported.modulus_pos (supported : key.Supported) : 0 < key.n := by
  have := supported.1
  omega

theorem Supported.toNat_seal_lt (supported : key.Supported) (h : key.seal seed m = some c) :
    Bytes.toNat c < key.n := by
  obtain ⟨-, em, -, rfl⟩ := seal_eq_some_iff.1 h
  rw [Bytes.toNat_ofNat, powMod_eq]
  exact lt_of_le_of_lt (Nat.mod_le _ _) (Nat.mod_lt _ supported.modulus_pos)

theorem Supported.exists_seal_iff (supported : key.Supported) :
    (∃ c, key.seal seed m = some c) ↔ m.length + Oaep.overhead digest ≤ key.size := by
  constructor
  · rintro ⟨c, hc⟩
    obtain ⟨-, em, hem, -⟩ := seal_eq_some_iff.1 hc
    exact (Oaep.encode_eq_some_iff.1 hem).1
  · exact exists_seal supported seed

end Rsa.PublicNumbers

namespace Cipher

theorem maxPlaintextSize_eq_ceil (c : Cipher) :
    c.maxPlaintextSize = max 0 (⌈(c.keySize : ℚ) / 8⌉ - 130) := by
  have hover : (Oaep.overhead Rsa.digest : Int) = 130 := rfl
  have hceil : ⌈(c.keySize : ℚ) / 8⌉ = (c.keySize + 7) / 8 := by
    have h := Rat.ceil_intCast_div_natCast c.keySize 8
    push_cast at h
    rw [h]
    omega
  rw [maxPlaintextSize, hover, hceil]

section Rsa

variable {c : Cipher} {key : Rsa.PublicNumbers} (hkey : c.publicKey = .rsa key)
include hkey

theorem encrypt_of_not_octets (seed : Rsa.Seed) {v : Value} (hv : ∀ m, v ≠ .octets m) :
    ∃ typeName, c.encrypt seed v = .error (.encryptionFailed (.notOctets typeName)) := by
  rw [encrypt, hkey]
  cases v with
  | octets m => exact absurd rfl (hv m)
  | _ => exact ⟨_, rfl⟩

theorem encrypt_of_too_long (supported : key.Supported) (seed : Rsa.Seed) {m : Bytes}
    (h : key.size < m.length + 130) :
    c.encrypt seed (.octets m) = .error (.encryptionFailed (.refusedByKey "Encryption")) := by
  have hseal : key.seal seed m = none := by
    rw [Option.eq_none_iff_forall_ne_some]
    exact fun out hout => Nat.not_le.2 h (supported.exists_seal_iff.1 ⟨out, hout⟩)
  rw [encrypt, hkey, PublicKey.encrypt, hseal]
  rfl

theorem exists_encrypt_iff (supported : key.Supported) (seed : Rsa.Seed) (v : Value) :
    (∃ out, c.encrypt seed v = .ok out) ↔ ∃ m, v = .octets m ∧ m.length + 130 ≤ key.size := by
  simp only [encrypt_eq_ok_iff hkey]
  constructor
  · rintro ⟨out, m, rfl, hout⟩
    exact ⟨m, rfl, supported.exists_seal_iff.1 ⟨out, hout⟩⟩
  · rintro ⟨m, rfl, hfits⟩
    obtain ⟨out, hout⟩ := Rsa.PublicNumbers.exists_seal supported seed hfits
    exact ⟨out, m, rfl, hout⟩

end Rsa

/-- The bound that a cipher tells is exact. With an RSA key whose modulus takes `k` octets, just the
octet strings are encrypted that leave 130 octets for the padding, which are those up to the bound if
the padding itself fits, and none otherwise. A ciphertext has the length of the modulus and is a
number below it. The bound goes by the size of the key, whatever integer that is. -/
theorem maxPlaintextSize_exact :
    (∀ (key : Rsa.PublicNumbers) (k : Nat), key.Supported → 256 ^ (k - 1) ≤ key.n →
      key.n < 256 ^ k → ∀ c : Cipher, c.publicKey = .rsa key →
        (∀ seed v, ((∃ out, c.encrypt seed v = .ok out) ↔
          ∃ m, v = .octets m ∧ m.length + 130 ≤ k)) ∧
        (∀ seed v out, c.encrypt seed v = .ok out →
          out.length = k ∧ Bytes.toNat out < key.n) ∧
        (∀ seed v, (∀ m, v ≠ .octets m) →
          ∃ typeName, c.encrypt seed v = .error (.encryptionFailed (.notOctets typeName))) ∧
        (∀ seed m, k < m.length + 130 → c.encrypt seed (.octets m) =
          .error (.encryptionFailed (.refusedByKey "Encryption"))) ∧
        (130 ≤ k → ∀ m : Bytes, m.length + 130 ≤ k ↔ (m.length : Int) ≤ c.maxPlaintextSize) ∧
        (k < 130 → c.maxPlaintextSize = 0 ∧
          ∀ seed v, ∃ cause, c.encrypt seed v = .error (.encryptionFailed cause))) ∧
    ∀ c : Cipher, c.maxPlaintextSize = max 0 (⌈(c.keySize : ℚ) / 8⌉ - 130) := by
  refine ⟨fun key k supported hlow hhigh c hkey => ?_, maxPlaintextSize_eq_ceil⟩
  have hsize : key.size = k := Bytes.width_eq hlow hhigh
  have hmax : c.maxPlaintextSize = (k - 130 : Nat) := by rw [maxPlaintextSize_eq hkey, hsize]
  have htoo_long (seed : Rsa.Seed) (m : Bytes) (h : k < m.length + 130) :
      c.encrypt seed (.octets m) = .error (.encryptionFailed (.refusedByKey "Encryption")) :=
    encrypt_of_too_long hkey supported seed (hsize ▸ h)
  refine ⟨fun seed v => ?_, fun seed v out hout => ?_, fun seed v hv => ?_, htoo_long,
    fun hk m => ?_, fun hk => ⟨?_, fun seed v => ?_⟩⟩
  · rw [← hsize]
    exact exists_encrypt_iff hkey supported seed v
  · obtain ⟨m, -, hseal⟩ := (encrypt_eq_ok_iff hkey).1 hout
    exact ⟨(Rsa.length_seal hseal).trans hsize, supported.toNat_seal_lt hseal⟩
  · exact encrypt_of_not_octets hkey seed hv
  · rw [hmax]
    omega
  · rw [hmax]
    omega
  · by_cases hv : ∀ m, v ≠ .octets m
    · obtain ⟨typeName, hfault⟩ := encrypt_of_not_octets hkey seed hv
      exact ⟨_, hfault⟩
    · simp only [ne_eq, not_forall, not_not] at hv
      obtain ⟨m, rfl⟩ := hv
      exact ⟨_, htoo_long seed m (by omega)⟩

/-- A modulus of 1034 bits leaves room for the padding and nothing else. -/
def narrowKey : Rsa.PublicNumbers := ⟨2 ^ 1033 + 1, 3⟩

def smallKey : Rsa.PublicNumbers := ⟨2 ^ 1031 + 1, 3⟩

theorem maxPlaintextSize_exact_narrow :
    let narrow : Cipher := ⟨.rsa narrowKey, none, by simp⟩
    let small : Cipher := ⟨.rsa smallKey, none, by simp⟩
    narrow.maxPlaintextSize = 0 ∧ small.maxPlaintextSize = 0 ∧
      (∃ out, narrow.encrypt zeroSeed (.octets []) = .ok out ∧ out.length = 130) ∧
      narrow.encrypt zeroSeed (.octets [7]) =
        .error (.encryptionFailed (.refusedByKey "Encryption")) ∧
      ∃ cause, small.encrypt zeroSeed (.octets []) = .error (.encryptionFailed cause) := by
  intro narrow small
  obtain ⟨hfits, hlength, -, hlong, -, -⟩ := maxPlaintextSize_exact.1 narrowKey 130
    (by decide +kernel) (by decide +kernel) (by decide +kernel) narrow rfl
  obtain ⟨-, -, -, -, -, hnone⟩ := maxPlaintextSize_exact.1 smallKey 129
    (by decide +kernel) (by decide +kernel) (by decide +kernel) small rfl
  obtain ⟨out, hout⟩ := (hfits zeroSeed (.octets [])).2 ⟨[], rfl, by decide⟩
  obtain ⟨hsmall, hrefused⟩ := hnone (by decide)
  exact ⟨by decide +kernel, hsmall, ⟨out, hout, (hlength _ _ out hout).1⟩,
    hlong zeroSeed [7] (by decide), hrefused zeroSeed (.octets [])⟩

end Cipher
end PayloadCipher
