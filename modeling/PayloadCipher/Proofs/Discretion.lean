import PayloadCipher.Proofs.Capacity
import PayloadCipher.Proofs.Veil

/-! Faults, descriptions and lines tell nothing that is secret. What is said about a plaintext that is
refused, or about a value that is no key, goes by the type alone, and what is said about an RSA key
goes by its public numbers. -/

namespace PayloadCipher

theorem Rsa.PublicNumbers.seal_eq_none {key : PublicNumbers} {seed : Seed} {m : Bytes}
    (h : key.seal seed m = none) (other : Seed) : key.seal other m = none := by
  by_cases supported : key.Supported
  · rw [Option.eq_none_iff_forall_ne_some]
    intro out hout
    have hfits := supported.exists_seal_iff.1 ⟨out, hout⟩
    obtain ⟨c, hc⟩ := Rsa.PublicNumbers.exists_seal supported seed hfits
    rw [h] at hc
    cases hc
  · rw [PublicNumbers.seal, if_neg supported]

/-- Why an RSA key refuses a value, by the type of the value. -/
def refusal (type : ValueType) : Fault :=
  if type = .own "bytes" then .refusedByKey "Encryption"
  else .notOctets (if type = .own "NoneType" then none else some type.name)

namespace Cipher

variable {c : Cipher} {key : Rsa.PublicNumbers}

theorem encrypt_of_foreign (hkey : c.publicKey = .rsa key) (seed : Rsa.Seed) {v : Value}
    (h : ∀ m, v ≠ .octets m) :
    c.encrypt seed v = .error (.encryptionFailed (refusal v.type)) := by
  rw [encrypt, hkey]
  cases v with
  | octets m => exact absurd rfl (h m)
  | publicKey key => cases key <;> rfl
  | privateKey key => cases key <;> rfl
  | other typeName content =>
    rw [Value.type, refusal, if_neg ValueType.noConfusion, if_neg ValueType.noConfusion]
    rfl
  | _ => rfl

theorem encrypt_of_refused (hkey : c.publicKey = .rsa key) {seed : Rsa.Seed} {v : Value}
    {fault : Fault} (h : c.encrypt seed v = .error fault) (other : Rsa.Seed) :
    c.encrypt other v = .error (.encryptionFailed (refusal v.type)) := by
  by_cases hv : ∃ m, v = .octets m
  · obtain ⟨m, rfl⟩ := hv
    cases hseal : key.seal seed m with
    | some out =>
      rw [encrypt, hkey, PublicKey.encrypt, hseal] at h
      cases h
    | none =>
      rw [encrypt, hkey, PublicKey.encrypt, Rsa.PublicNumbers.seal_eq_none hseal]
      rfl
  · exact encrypt_of_foreign hkey other (not_exists.1 hv)

end Cipher

def Value.isKey : Value → Bool
  | publicKey _ | privateKey _ => true
  | _ => false

theorem Constructor.construct_of_not_key {v : Value} (h : v.isKey = false) (c : Constructor) :
    c.construct v = .error (.invalidKeyType v.typeName) := by
  cases v with
  | publicKey | privateKey => cases h
  | _ => cases c <;> rfl

namespace Service

theorem perform_encrypt_of_refused {r : Reference} {c : Cipher} {a : Argument} {v : Value}
    {fault : Fault} {s : Service} (hcipher : (cipherOf r s).1 = .ok (.cipher c))
    (hvalue : (resolve a s).1 = .ok v)
    (h : c.encrypt (s.supply.seed s.seedsDrawn) v = .error fault) (keepAs opener : Option String) :
    perform (.encrypt r a keepAs opener) s =
      (.error fault, { s with seedsDrawn := s.seedsDrawn + 1 }) := by
  have hdraw : drawSeed s = (.ok (s.supply.seed s.seedsDrawn),
    { s with seedsDrawn := s.seedsDrawn + 1 }) := rfl
  rw [perform, (cipherOf_still r).bind_of_ok hcipher, (resolve_still a).bind_of_ok hvalue,
    encryptWith, Action.bind_of_ok hdraw, Value.encrypt, h, Action.ofExcept_error_bind]

theorem perform_build_of_not_key {key : Argument} {v : Value} {s : Service}
    (hkey : (resolve key s).1 = .ok v) (h : v.isKey = false) (builder : Builder) (name : String) :
    perform (.build builder key name) s =
      match (constructorOf builder s).1 with
      | .ok _ => (.error (.invalidKeyType v.typeName), s)
      | .error fault => (.error fault, s) := by
  rw [perform_build, constructed, (resolve_still key).bind_of_ok hkey]
  cases hbuilder : (constructorOf builder s).1 with
  | ok c =>
    rw [(constructorOf_still builder).bind_of_ok hbuilder, c.construct_of_not_key h]
    rfl
  | error fault => rw [(constructorOf_still builder).bind_of_error hbuilder]

theorem perform_create_of_not_key {key : Argument} {v : Value} {s : Service}
    (hkey : (resolve key s).1 = .ok v) (h : v.isKey = false) {algorithm : Json}
    (hfactory : s.factoryFor algorithm = .ok .builtIn) (name : String) :
    perform (.create key algorithm name) s = (.error (.invalidKeyType v.typeName), { s with
      cache := if algorithm.isTruthy then s.cache else (s.cache.readCipher s.environment).2
      factoryCalls := s.factoryCalls ++ [(.builtIn, v)] }) := by
  have hrefused : Factory.builtIn.make v = .error (.invalidKeyType v.typeName) := by
    cases v with
    | publicKey | privateKey => cases h
    | _ => rfl
  have hmade := made_of_factoryFor hfactory v
  rw [hrefused] at hmade
  rw [perform_create_of_resolve hkey, create_eq, Action.bind_of_error (Action.bind_of_error hmade)]

/-- What is answered tells no secrets. Two plaintexts of one type that an RSA key refuses are answered
alike, and so are two values of one type that are no keys, by every constructor and by a creation that
calls the factory that is there from the start. Two runs of constructions, signatures, descriptions
and such creations are answered alike, down to the lines, if they only differ in the private numbers
of RSA keys, in their operations and in their states. -/
theorem answers_hide_secrets :
    let answer (op : Operation) := answering op (perform op)
    (∀ (s : Service) (r : Reference) (c : Cipher) (numbers : Rsa.PublicNumbers) (a b : Argument)
        (v w : Value) (keepAs opener : Option String),
      (cipherOf r s).1 = .ok (.cipher c) → c.publicKey = .rsa numbers →
      (resolve a s).1 = .ok v → (resolve b s).1 = .ok w → v.type = w.type →
      (∃ seed fault, c.encrypt seed v = .error fault) →
      (∃ seed fault, c.encrypt seed w = .error fault) →
      answer (.encrypt r a keepAs opener) s = answer (.encrypt r b keepAs opener) s) ∧
    (∀ (s : Service) (a b : Argument) (v w : Value),
      (resolve a s).1 = .ok v → (resolve b s).1 = .ok w → v.type = w.type →
      v.isKey = false → w.isKey = false →
      (∀ builder name, answer (.build builder a name) s = answer (.build builder b name) s) ∧
      ∀ algorithm name, s.factoryFor algorithm = .ok .builtIn →
        (answer (.create a algorithm name) s).1 = (answer (.create b algorithm name) s).1) ∧
    (∀ k l : Rsa.PrivateNumbers, (PrivateKey.rsa k).veiled = (PrivateKey.rsa l).veiled ↔
      k.publicNumbers = l.publicNumbers) ∧
    ∀ (s t : Service) (ops others : List Operation), s.veiled = t.veiled →
      ops.map Operation.veiled = others.map Operation.veiled → (∀ op ∈ ops, s.Discreet op) →
      (performAll ops s).1 = (performAll others t).1 := by
  intro answer
  refine ⟨?_, ?_, fun k l => ?_, fun s t ops others hstate hops h => ?_⟩
  · intro s r c numbers a b v w keepAs opener hr hkey ha hb htype hv hw
    obtain ⟨_, _, hv⟩ := hv
    obtain ⟨_, _, hw⟩ := hw
    have hfirst := perform_encrypt_of_refused hr ha (Cipher.encrypt_of_refused hkey hv _) keepAs
      opener
    have hsecond := perform_encrypt_of_refused hr hb (Cipher.encrypt_of_refused hkey hw _) keepAs
      opener
    simp only [answer, answering, hfirst, hsecond, htype]
  · intro s a b v w ha hb htype hv hw
    have hname : v.typeName = w.typeName := by rw [← v.name_type, htype, w.name_type]
    refine ⟨fun builder name => ?_, fun algorithm name hfactory => ?_⟩
    · simp only [answer, answering, perform_build_of_not_key ha hv, perform_build_of_not_key hb hw,
        hname]
    · simp only [answer, answering, perform_create_of_not_key ha hv hfactory,
        perform_create_of_not_key hb hw hfactory, hname]
  · rw [PrivateKey.veiled, PrivateKey.veiled, PrivateKey.rsa.injEq]
    exact Rsa.PrivateNumbers.veiled_eq_iff
  · exact (performAll_eq_of_veiled_eq hstate hops h).1

def keyRun (numbers : Rsa.PrivateNumbers) : List Operation :=
  let key := Argument.value (.privateKey (.rsa numbers))
  [.build .ofKey key "a", .describe (.named "a"), .signature (.ofKey key), .create key .null "b",
    .build .ofPublicKey key "c", .signature (.named "b")]

theorem answers_hide_secrets_debug :
    let s : Service :=
      { supply := constantSupply, root := .configured .debug (.text "envelope") .current }
    let cipher : Reference := .ofKey (.value (.publicKey (.rsa ⟨3233, 17⟩)))
    let octets (b : Bytes) := Argument.value (.octets b)
    let answer (op : Operation) := (answering op (perform op) s).1
    answer (.encrypt cipher (octets [1]) none none) =
      answer (.encrypt cipher (octets [2, 3]) none none) ∧
    answer (.build .ofKey (octets [1]) "a") = answer (.build .ofKey (octets [2, 3]) "a") ∧
    answer (.create (octets [1]) .null "a") = answer (.create (octets [2, 3]) .null "a") ∧
    (performAll (keyRun ⟨3233, 17, 2753, 61, 53⟩) s).1 =
      (performAll (keyRun ⟨3233, 17, 413, 53, 61⟩) s).1 := by
  intro s cipher octets answer
  obtain ⟨hplain, hvalue, -, hrun⟩ := answers_hide_secrets
  have hsetting : s.cipherSettingsOf.algorithm = Cipher.algorithm := by decide +kernel
  have hfactory : s.factoryFor .null = .ok .builtIn := by
    rw [factoryFor, hsetting]
    rfl
  obtain ⟨c, hcipher, hkey⟩ : ∃ c, (cipherOf cipher s).1 = .ok (.cipher c) ∧
      c.publicKey = .rsa ⟨3233, 17⟩ := ⟨_, rfl, rfl⟩
  have hsupported : Rsa.PublicNumbers.Supported ⟨3233, 17⟩ := by decide +kernel
  have hsize : Rsa.PublicNumbers.size ⟨3233, 17⟩ = 2 := by decide +kernel
  have hrefused (m : Bytes) : ∃ seed fault, c.encrypt seed (.octets m) = .error fault := by
    refine ⟨s.supply.seed 0, _, Cipher.encrypt_of_too_long hkey hsupported _ ?_⟩
    rw [hsize]
    omega
  have hresolve (m : Bytes) : (resolve (octets m) s).1 = .ok (.octets m) := rfl
  have hencrypt := hplain s cipher c _ _ _ _ _ none none hcipher hkey (hresolve [1])
    (hresolve [2, 3]) rfl (hrefused [1]) (hrefused [2, 3])
  obtain ⟨hbuild, hcreate⟩ := hvalue s _ _ _ _ (hresolve [1]) (hresolve [2, 3]) rfl rfl rfl
  refine ⟨congrArg Prod.fst hencrypt, congrArg Prod.fst (hbuild .ofKey "a"),
    hcreate .null "a" hfactory, ?_⟩
  have hveiled : (keyRun ⟨3233, 17, 2753, 61, 53⟩).map Operation.veiled =
      (keyRun ⟨3233, 17, 413, 53, 61⟩).map Operation.veiled := rfl
  have hdiscreet : ∀ op ∈ keyRun ⟨3233, 17, 2753, 61, 53⟩, s.Discreet op := by
    simp [keyRun, Discreet, hfactory]
  exact hrun s s _ _ rfl hveiled hdiscreet

end Service
end PayloadCipher
