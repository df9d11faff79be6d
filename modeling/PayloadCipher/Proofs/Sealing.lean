import PayloadCipher.Proofs.KeyPair
import PayloadCipher.Proofs.Padding

/-! Sealing under a valid key pair. What the public key seals the private key opens, and the private
key opens nothing else: an opened string is the sealing of what comes out of it, with one seed. -/

namespace PayloadCipher.Rsa

theorem PublicNumbers.seal_eq_some_iff {key : PublicNumbers} {seed : Seed} {m c : Bytes} :
    key.seal seed m = some c ↔
      key.Supported ∧ ∃ em, Oaep.encode digest key.size seed.octets m = some em ∧
        Bytes.ofNat key.size (powMod (Bytes.toNat em) key.e key.n) = c := by
  by_cases hs : key.Supported
  · simp [PublicNumbers.seal, hs]
  · simp [PublicNumbers.seal, hs]

theorem PrivateNumbers.unseal_eq_some_iff {key : PrivateNumbers} {c m : Bytes} :
    key.unseal c = some m ↔
      c.length = key.publicNumbers.size ∧ Bytes.toNat c < key.n ∧
        Oaep.decode digest
          (Bytes.ofNat key.publicNumbers.size (powMod (Bytes.toNat c) key.d key.n)) = some m := by
  by_cases hc : c.length = key.publicNumbers.size ∧ Bytes.toNat c < key.n
  · simp [PrivateNumbers.unseal, hc]
  · simp only [PrivateNumbers.unseal, hc, if_false, reduceCtorEq, false_iff]
    exact fun hall => hc ⟨hall.1, hall.2.1⟩

theorem PublicNumbers.exists_seal {key : PublicNumbers} (supported : key.Supported) (seed : Seed)
    {m : Bytes} (fits : m.length + Oaep.overhead digest ≤ key.size) :
    ∃ c, key.seal seed m = some c :=
  ⟨_, seal_eq_some_iff.2 ⟨supported, _, Oaep.encode_eq_some_iff.2 ⟨fits, rfl⟩, rfl⟩⟩

theorem PublicNumbers.toNat_encode_lt {key : PublicNumbers} {seed : Seed} {m em : Bytes}
    (he : Oaep.encode digest key.size seed.octets m = some em) : Bytes.toNat em < key.n := by
  have hlen := Oaep.length_encode seed.length_octets he
  obtain ⟨-, hem⟩ := Oaep.encode_eq_some_iff.1 he
  generalize (Oaep.maskBoth _ _ _).1 ++ (Oaep.maskBoth _ _ _).2 = rest at hem
  subst hem
  rw [List.length_cons, PublicNumbers.size] at hlen
  calc Bytes.toNat (0 :: rest)
      = Bytes.toNat rest := Bytes.toNat_zero_cons rest
    _ < 256 ^ rest.length := Bytes.toNat_lt rest
    _ = 256 ^ (Bytes.width key.n - 1) := by rw [← hlen, Nat.add_sub_cancel]
    _ ≤ key.n := Bytes.pow_width_le (by omega)

namespace PrivateNumbers.Valid

variable {key : PrivateNumbers} (valid : key.Valid) {seed seed' : Seed} {m m' c : Bytes}
include valid

theorem toNat_ofNat_powMod (x t : Nat) :
    Bytes.toNat (Bytes.ofNat key.publicNumbers.size (powMod x t key.n)) = powMod x t key.n :=
  Bytes.toNat_ofNat_of_lt (lt_trans (valid.powMod_lt x t) (Bytes.lt_pow_width key.n))

/-- Sealing, seen from the private key: the private power of what was sealed is a padded message. -/
theorem seal_iff_encode : key.publicNumbers.seal seed m = some c ↔
    c.length = key.publicNumbers.size ∧ Bytes.toNat c < key.n ∧
      Oaep.encode digest key.publicNumbers.size seed.octets m =
        some (Bytes.ofNat key.publicNumbers.size (powMod (Bytes.toNat c) key.d key.n)) := by
  rw [PublicNumbers.seal_eq_some_iff, PrivateNumbers.publicNumbers_e,
    PrivateNumbers.publicNumbers_n]
  constructor
  · rintro ⟨-, em, he, rfl⟩
    have hlt := PublicNumbers.toNat_encode_lt he
    have hlen := Oaep.length_encode seed.length_octets he
    rw [valid.toNat_ofNat_powMod, valid.powMod_d_powMod_e hlt, he, ← hlen, Bytes.ofNat_toNat]
    exact ⟨Bytes.length_ofNat _ _, valid.powMod_lt _ _, rfl⟩
  · rintro ⟨hlen, hlt, he⟩
    refine ⟨valid.supported, _, he, ?_⟩
    rw [valid.toNat_ofNat_powMod, valid.powMod_e_powMod_d hlt, ← hlen, Bytes.ofNat_toNat]

theorem unseal_iff_seal : key.unseal c = some m ↔
    ∃ seed, key.publicNumbers.seal seed m = some c := by
  rw [PrivateNumbers.unseal_eq_some_iff]
  constructor
  · rintro ⟨hlen, hlt, hd⟩
    obtain ⟨octets, hoctets, he⟩ := Oaep.exists_encode_of_decode hd
    rw [Bytes.length_ofNat] at he
    exact ⟨⟨octets, hoctets⟩, valid.seal_iff_encode.2 ⟨hlen, hlt, he⟩⟩
  · rintro ⟨seed, hc⟩
    obtain ⟨hlen, hlt, he⟩ := valid.seal_iff_encode.1 hc
    exact ⟨hlen, hlt, Oaep.decode_encode seed.length_octets he⟩

theorem seal_injective (hc : key.publicNumbers.seal seed m = some c)
    (hc' : key.publicNumbers.seal seed' m' = some c) : seed = seed' ∧ m = m' := by
  obtain ⟨-, -, he⟩ := valid.seal_iff_encode.1 hc
  obtain ⟨-, -, he'⟩ := valid.seal_iff_encode.1 hc'
  obtain ⟨hseed, hm⟩ := Oaep.encode_injective seed.length_octets seed'.length_octets he he'
  cases seed
  cases seed'
  exact ⟨by simpa using hseed, hm⟩

end PrivateNumbers.Valid
end PayloadCipher.Rsa
