import PayloadCipher.Cipher
import PayloadCipher.Proofs.Base64
import PayloadCipher.Proofs.KeyEncoding

/-! Fingerprints name public keys up to a collision of the digest: neither the encoding of a key nor
the text of a digest loses anything, so two keys of one fingerprint are two strings of one
digest. -/

namespace PayloadCipher

theorem decode?_fingerprint (encoding : Bytes) :
    Base64.decode? Base64.standard
        (Base64.encodeOpen Base64.standard (Digest.sha256.hash encoding) ++ ['=']) =
      some (Digest.sha256.hash encoding) := by
  have hlen : (Digest.sha256.hash encoding).length = 32 := Digest.length_hash _ _
  have := Base64.decode?_encodeOpen Base64.standard_proper (Digest.sha256.hash encoding)
  rwa [hlen] at this

theorem length_encodeOpen_hash (encoding : Bytes) :
    (Base64.encodeOpen Base64.standard (Digest.sha256.hash encoding)).length = 43 := by
  have hlen : (Digest.sha256.hash encoding).length = 32 := Digest.length_hash _ _
  rw [Base64.encodeOpen_eq Base64.standard_proper, List.length_map, Base64.length_sextets, hlen]

theorem hash_eq_of_fingerprint_eq {a b : Bytes} (h : fingerprint a = fingerprint b) :
    Digest.sha256.hash a = Digest.sha256.hash b := by
  have hsymbols := congrArg String.toList h
  rw [fingerprint, fingerprint, String.toList_append, String.toList_append, String.toList_ofList,
    String.toList_ofList] at hsymbols
  have hread := decode?_fingerprint a
  rw [List.append_cancel_left hsymbols, decode?_fingerprint] at hread
  exact (Option.some.inj hread).symm

namespace Cipher

theorem signature_eq_ok_iff {c : Cipher} {s : String} :
    c.signature = .ok s ↔
      ∃ encoding, c.publicKey.encoding = .ok encoding ∧ fingerprint encoding = s := by
  simp only [signature, PublicKey.encoding_eq_ok_iff]
  cases c.publicKey.encoded <;> simp

/-- Every fingerprint writes a digest in full. Those of RSA keys exist, are equal for equal keys,
and if they are equal for different keys then two encodings have one digest. -/
theorem signature_identifies :
    (∀ (c : Cipher) (s : String), c.signature = .ok s →
      ∃ encoding body, c.publicKey.encoding = .ok encoding ∧ s = "SHA256:" ++ String.ofList body ∧
        body.length = 43 ∧ (∀ x ∈ body, x ∈ Base64.standard.symbols) ∧ '=' ∉ body ∧
        Base64.decode? Base64.standard (body ++ ['=']) = some (Digest.sha256.hash encoding) ∧
        (Digest.sha256.hash encoding).length = 32) ∧
    (∀ (a b : Cipher) (m n : Rsa.PublicNumbers), a.publicKey = .rsa m → b.publicKey = .rsa n →
      Bytes.width m.n < 2 ^ 56 → Bytes.width m.e < 2 ^ 56 →
      Bytes.width n.n < 2 ^ 56 → Bytes.width n.e < 2 ^ 56 →
      ∃ s t, a.signature = .ok s ∧ b.signature = .ok t ∧ (m = n → s = t) ∧
        (s = t → m ≠ n →
          Der.subjectPublicKeyInfo m.n m.e ≠ Der.subjectPublicKeyInfo n.n n.e ∧
          Digest.sha256.hash (Der.subjectPublicKeyInfo m.n m.e) =
            Digest.sha256.hash (Der.subjectPublicKeyInfo n.n n.e))) := by
  constructor
  · intro c s hs
    obtain ⟨encoding, hencoding, rfl⟩ := signature_eq_ok_iff.1 hs
    refine ⟨encoding, _, hencoding, rfl, length_encodeOpen_hash encoding, ?_, ?_,
      decode?_fingerprint encoding, Digest.length_hash _ _⟩
    · exact fun x hx => Base64.mem_symbols_of_mem_encodeOpen Base64.standard_proper hx
    · exact fun hx => Base64.standard_proper.sign_not_mem
        (Base64.mem_symbols_of_mem_encodeOpen Base64.standard_proper hx)
  · intro a b m n ha hb hmn hme hnn hne
    refine ⟨_, _, signature_eq_ok_iff.2 ⟨_, by rw [ha]; rfl, rfl⟩,
      signature_eq_ok_iff.2 ⟨_, by rw [hb]; rfl, rfl⟩, ?_, ?_⟩
    · rintro rfl
      rfl
    · intro heq hdiffer
      refine ⟨fun hder => hdiffer ?_, hash_eq_of_fingerprint_eq heq⟩
      obtain ⟨hn, he⟩ := Der.subjectPublicKeyInfo_injective hmn hme hnn hne hder
      exact congrArg₂ Rsa.PublicNumbers.mk hn he

theorem signature_identifies_small :
    (∃ s, Cipher.signature ⟨.rsa ⟨3233, 17⟩, none, by simp⟩ = .ok s ∧
      Cipher.signature ⟨.rsa ⟨3233, 17⟩, some (.rsa ⟨3233, 17, 413, 61, 53⟩),
        by rintro k ⟨⟩; rfl⟩ = .ok s) ∧
    ∃ s t, Cipher.signature ⟨.rsa ⟨3233, 17⟩, none, by simp⟩ = .ok s ∧
      Cipher.signature ⟨.rsa ⟨3233, 7⟩, none, by simp⟩ = .ok t ∧
      (s = t → Digest.sha256.hash (Der.subjectPublicKeyInfo 3233 17) =
        Digest.sha256.hash (Der.subjectPublicKeyInfo 3233 7)) := by
  constructor
  · obtain ⟨s, t, hs, ht, hst, -⟩ := signature_identifies.2
      ⟨.rsa ⟨3233, 17⟩, none, by simp⟩
      ⟨.rsa ⟨3233, 17⟩, some (.rsa ⟨3233, 17, 413, 61, 53⟩), by rintro k ⟨⟩; rfl⟩
      ⟨3233, 17⟩ ⟨3233, 17⟩ rfl rfl (by decide) (by decide) (by decide) (by decide)
    exact ⟨s, hs, hst rfl ▸ ht⟩
  · obtain ⟨s, t, hs, ht, -, hst⟩ := signature_identifies.2
      ⟨.rsa ⟨3233, 17⟩, none, by simp⟩ ⟨.rsa ⟨3233, 7⟩, none, by simp⟩
      ⟨3233, 17⟩ ⟨3233, 7⟩ rfl rfl (by decide) (by decide) (by decide) (by decide)
    exact ⟨s, t, hs, ht, fun heq => (hst heq (by simp)).2⟩

end Cipher
end PayloadCipher
