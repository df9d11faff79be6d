import Mathlib.NumberTheory.LucasLehmer
import PayloadCipher.Cipher
import PayloadCipher.Proofs.Sealing

/-! Ciphers over RSA keys. A cipher encrypts for whoever holds the private key, however either of
them was built, and decryption accepts nothing but what encryption produces. -/

namespace PayloadCipher.Cipher

theorem encrypt_eq_ok_iff {c : Cipher} {key : Rsa.PublicNumbers} (hk : c.publicKey = .rsa key)
    {seed : Rsa.Seed} {v : Value} {out : Bytes} :
    c.encrypt seed v = .ok out ↔ ∃ m, v = .octets m ∧ key.seal seed m = some out := by
  rw [encrypt, hk]
  cases v with
  | octets m =>
    cases hm : key.seal seed m with
    | none => simp [PublicKey.encrypt, hm]
    | some b => simp [PublicKey.encrypt, hm]
  | _ => simp [PublicKey.encrypt]

theorem exists_encrypt {c : Cipher} {key : Rsa.PublicNumbers} (hk : c.publicKey = .rsa key)
    (supported : key.Supported) (seed : Rsa.Seed) {m : Bytes} (fits : m.length + 130 ≤ key.size) :
    ∃ out, c.encrypt seed (.octets m) = .ok out := by
  obtain ⟨out, hout⟩ := Rsa.PublicNumbers.exists_seal supported seed fits
  exact ⟨out, (encrypt_eq_ok_iff hk).2 ⟨m, rfl, hout⟩⟩

theorem decrypt_eq_ok_iff {c : Cipher} {key : Rsa.PrivateNumbers}
    (hk : c.privateKey = some (.rsa key)) {v : Value} {m : Bytes} :
    c.decrypt v = .ok m ↔ ∃ b, v = .octets b ∧ key.unseal b = some m := by
  rw [decrypt, hk]
  cases v with
  | octets b =>
    cases hb : key.unseal b with
    | none => simp [PrivateKey.decrypt, hb]
    | some out => simp [PrivateKey.decrypt, hb]
  | _ => simp [PrivateKey.decrypt]

theorem decrypt_eq_failed {c : Cipher} {key : Rsa.PrivateNumbers}
    (hk : c.privateKey = some (.rsa key)) {v : Value} (hv : ∀ m, c.decrypt v ≠ .ok m) :
    c.decrypt v = .error .decryptionFailed := by
  simp only [decrypt, hk] at hv ⊢
  cases v with
  | octets b =>
    cases hb : key.unseal b with
    | none => simp [PrivateKey.decrypt, hb, Fault.isOrdinary, Fault.kind, Kind.lineage]
    | some out => simp [PrivateKey.decrypt, hb] at hv
  | _ => simp [PrivateKey.decrypt, Fault.isOrdinary, Fault.kind, Kind.lineage]

theorem publicKey_eq_of_privateKey {c : Cipher} {key : Rsa.PrivateNumbers}
    (hk : c.privateKey = some (.rsa key)) : c.publicKey = .rsa key.publicNumbers := by
  have hpaired := c.paired _ hk
  cases hp : c.publicKey with
  | rsa numbers =>
    rw [hp] at hpaired
    simpa [PrivateKey.publicKey, PublicKey.identity, eq_comm] using hpaired
  | scripted s =>
    rw [hp] at hpaired
    simp [PrivateKey.publicKey, PublicKey.identity] at hpaired

theorem maxPlaintextSize_eq {c : Cipher} {key : Rsa.PublicNumbers} (hk : c.publicKey = .rsa key) :
    c.maxPlaintextSize = (key.size - 130 : Nat) := by
  have hover : Oaep.overhead Rsa.digest = 130 := rfl
  have hsize : key.size = (Bytes.bitLength key.n + 7) / 8 := rfl
  simp only [maxPlaintextSize, keySize, hk, PublicKey.size, hover, hsize]
  omega

/-- Decryption inverts the encryptions of whoever has the public key, and nothing more. -/
theorem decrypt_eq_ok_iff_encrypt {key : Rsa.PrivateNumbers} (valid : key.Valid)
    {sender receiver : Cipher} (hs : sender.publicKey = .rsa key.publicNumbers)
    (hr : receiver.privateKey = some (.rsa key)) {v : Value} {m : Bytes} :
    receiver.decrypt v = .ok m ↔
      ∃ c seed, v = .octets c ∧ sender.encrypt seed (.octets m) = .ok c := by
  simp only [decrypt_eq_ok_iff hr, encrypt_eq_ok_iff hs, valid.unseal_iff_seal]
  constructor
  · rintro ⟨c, rfl, seed, hc⟩
    exact ⟨c, seed, rfl, m, rfl, hc⟩
  · rintro ⟨c, seed, rfl, _, ⟨⟩, hc⟩
    exact ⟨c, rfl, seed, hc⟩

def mersenneKey : Rsa.PrivateNumbers where
  n := mersenne 521 * mersenne 607
  e := 65537
  d := (65280 * Nat.lcm (mersenne 521 - 1) (mersenne 607 - 1) + 1) / 65537
  p := mersenne 521
  q := mersenne 607

theorem mersenneKey_valid : mersenneKey.Valid where
  prime_p := lucas_lehmer_sufficiency _ (by norm_num) (by norm_num)
  prime_q := lucas_lehmer_sufficiency _ (by norm_num) (by norm_num)
  distinct := by decide +kernel
  odd_p := by decide +kernel
  odd_q := by decide +kernel
  modulus_eq := by decide +kernel
  three_le_exponent := by decide
  exponent_lt := by decide +kernel
  inverse := by decide +kernel
  modulus_bits := by decide +kernel
  exponent_bits := by decide +kernel

def mersenneSender : Cipher := ⟨.rsa mersenneKey.publicNumbers, none, by simp⟩

def mersenneReceiver : Cipher :=
  ⟨.rsa mersenneKey.publicNumbers, some (.rsa mersenneKey), by rintro k ⟨⟩; rfl⟩

def zeroSeed : Rsa.Seed := ⟨List.replicate 64 0, by decide⟩

/-- Whatever fits is encrypted, and every holder of the private key reads it. -/
theorem decrypt_encrypt {key : Rsa.PrivateNumbers} (valid : key.Valid) {sender receiver : Cipher}
    (hs : sender.publicKey = .rsa key.publicNumbers)
    (hr : receiver.privateKey = some (.rsa key)) (seed : Rsa.Seed) (m : Bytes)
    (fits : m.length + 130 ≤ key.publicNumbers.size) :
    ∃ c, sender.encrypt seed (.octets m) = .ok c ∧ receiver.decrypt (.octets c) = .ok m := by
  obtain ⟨c, he⟩ := exists_encrypt hs valid.supported seed fits
  exact ⟨c, he, (decrypt_eq_ok_iff_encrypt valid hs hr).2 ⟨c, seed, rfl, he⟩⟩

theorem decrypt_encrypt_zeros : ∃ c,
    mersenneSender.encrypt zeroSeed (.octets [0, 0, 1, 0]) = .ok c ∧
      mersenneReceiver.decrypt (.octets c) = .ok [0, 0, 1, 0] :=
  decrypt_encrypt mersenneKey_valid rfl rfl zeroSeed [0, 0, 1, 0] (by decide +kernel)

/-- Decryption accepts nothing but what encryption produces, and tells message and seed apart: two
encryptions are equal only if both are, and no string of another length or with a multiple of the
modulus added is accepted in place of an encryption. -/
theorem decrypt_accepts_encryptions {key : Rsa.PrivateNumbers} (valid : key.Valid)
    {sender receiver : Cipher} (hs : sender.publicKey = .rsa key.publicNumbers)
    (hr : receiver.privateKey = some (.rsa key)) :
    (∀ v m, receiver.decrypt v = .ok m →
      ∃ c, v = .octets c ∧ c.length = key.publicNumbers.size ∧ Bytes.toNat c < key.n ∧
        (m.length : Int) ≤ receiver.maxPlaintextSize ∧
        ∃! seed, sender.encrypt seed (.octets m) = .ok c) ∧
    (∀ (other : Cipher) seed seed' v v' c, other.publicKey = .rsa key.publicNumbers →
      sender.encrypt seed v = .ok c → other.encrypt seed' v' = .ok c → v = v' ∧ seed = seed') ∧
    (∀ seed v c c', sender.encrypt seed v = .ok c →
      c'.length ≠ c.length ∨ (∃ t, 0 < t ∧ Bytes.toNat c' = Bytes.toNat c + t * key.n) →
      receiver.decrypt (.octets c') = .error .decryptionFailed) := by
  have inject (other : Cipher) (seed seed' v v' c) (ho : other.publicKey = .rsa key.publicNumbers)
      (he : sender.encrypt seed v = .ok c) (he' : other.encrypt seed' v' = .ok c) :
      v = v' ∧ seed = seed' := by
    obtain ⟨m, rfl, hc⟩ := (encrypt_eq_ok_iff hs).1 he
    obtain ⟨m', rfl, hc'⟩ := (encrypt_eq_ok_iff ho).1 he'
    obtain ⟨rfl, rfl⟩ := valid.seal_injective hc hc'
    exact ⟨rfl, rfl⟩
  refine ⟨?_, inject, ?_⟩
  · intro v m hd
    obtain ⟨c, seed, rfl, he⟩ := (decrypt_eq_ok_iff_encrypt valid hs hr).1 hd
    obtain ⟨_, ⟨⟩, hc⟩ := (encrypt_eq_ok_iff hs).1 he
    obtain ⟨hlen, hlt, hem⟩ := valid.seal_iff_encode.1 hc
    have fits : m.length + 130 ≤ key.publicNumbers.size := (Oaep.encode_eq_some_iff.1 hem).1
    refine ⟨c, rfl, hlen, hlt, ?_, seed, he, ?_⟩
    · rw [maxPlaintextSize_eq (publicKey_eq_of_privateKey hr)]
      omega
    · intro seed' he'
      exact (inject sender seed' seed _ _ c hs he' he).2
  · intro seed v c c' he hc'
    apply decrypt_eq_failed hr
    intro m' hd
    obtain ⟨m, rfl, hc⟩ := (encrypt_eq_ok_iff hs).1 he
    obtain ⟨hlen, hlt, -⟩ := valid.seal_iff_encode.1 hc
    obtain ⟨_, ⟨⟩, hb⟩ := (decrypt_eq_ok_iff hr).1 hd
    obtain ⟨hlen', hlt', -⟩ := Rsa.PrivateNumbers.unseal_eq_some_iff.1 hb
    -- whatever is accepted has the length of the modulus and a number below it
    rcases hc' with hne | ⟨t, ht, hlift⟩
    · exact hne (hlen'.trans hlen.symm)
    · have := Nat.le_mul_of_pos_left key.n ht
      omega

theorem decrypt_accepts_encryptions_zeros : ∃ c,
    mersenneReceiver.decrypt (.octets c) = .ok [0, 0, 1, 0] ∧
      (∃! seed, mersenneSender.encrypt seed (.octets [0, 0, 1, 0]) = .ok c) ∧
      mersenneReceiver.decrypt (.octets (c ++ [0])) = .error .decryptionFailed := by
  obtain ⟨c, he⟩ := exists_encrypt (c := mersenneSender) rfl mersenneKey_valid.supported zeroSeed
    (m := [0, 0, 1, 0]) (by decide +kernel)
  have hd : mersenneReceiver.decrypt (.octets c) = .ok [0, 0, 1, 0] :=
    (decrypt_eq_ok_iff_encrypt mersenneKey_valid rfl rfl).2 ⟨c, zeroSeed, rfl, he⟩
  have hs : mersenneSender.publicKey = .rsa mersenneKey.publicNumbers := rfl
  have hr : mersenneReceiver.privateKey = some (.rsa mersenneKey) := rfl
  obtain ⟨accepts, -, rejects⟩ := decrypt_accepts_encryptions mersenneKey_valid hs hr
  obtain ⟨_, ⟨⟩, -, -, -, unique⟩ := accepts _ _ hd
  exact ⟨c, hd, unique, rejects _ _ _ _ he (.inl (by simp))⟩

end PayloadCipher.Cipher
