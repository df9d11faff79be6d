import PayloadCipher.Proofs.Change
import PayloadCipher.Proofs.Encryption

/-! Refusals of decryption. A private key refuses a value at one of several stages, or with whatever
fault it was scripted to raise. The cipher that holds it gives one answer for all of them, so that
no two ciphertexts that are refused can be told apart by it. -/

namespace PayloadCipher

theorem Fault.isOrdinary_iff {fault : Fault} :
    fault.isOrdinary = true ↔ fault.kind ∉ [Kind.any, .base, .interrupt] := by
  rw [isOrdinary]
  cases fault.kind <;> decide

namespace Rsa.PrivateNumbers

variable (key : PrivateNumbers)

def padded (c : Bytes) : Bytes :=
  Bytes.ofNat key.publicNumbers.size (powMod (Bytes.toNat c) key.d key.n)

def paddedBlock (c : Bytes) : Bytes :=
  (Oaep.unmaskBoth digest ((key.padded c).tail.take digest.size)
    ((key.padded c).tail.drop digest.size)).2

/-- Why a key does not decrypt a value, by the stage at which this can be seen. There may be several
reasons at once. -/
inductive Refuses : Value → Prop
  | notOctets (v : Value) (h : ∀ c, v ≠ .octets c) : Refuses v
  | wrongLength (c : Bytes) (h : c.length ≠ key.publicNumbers.size) : Refuses (.octets c)
  | outOfRange (c : Bytes) (h : key.n ≤ Bytes.toNat c) : Refuses (.octets c)
  | leadingOctet (c : Bytes) (h : (key.padded c).head? ≠ some 0) : Refuses (.octets c)
  | smallModulus (c : Bytes) (h : key.publicNumbers.size < Oaep.overhead digest) :
      Refuses (.octets c)
  | labelDigest (c : Bytes) (h : (key.paddedBlock c).take digest.size ≠ digest.hash []) :
      Refuses (.octets c)
  | separator (c : Bytes) (h : ∀ zeros m,
      (key.paddedBlock c).drop digest.size ≠ List.replicate zeros 0 ++ 1 :: m) : Refuses (.octets c)

/-- All that has to be right about a ciphertext for a message to come out. -/
@[mk_iff]
structure Opens (c m : Bytes) : Prop where
  length_eq : c.length = key.publicNumbers.size
  in_range : Bytes.toNat c < key.n
  leading_octet : (key.padded c).head? = some 0
  large_modulus : Oaep.overhead digest ≤ key.publicNumbers.size
  label_digest : (key.paddedBlock c).take digest.size = digest.hash []
  separator : ∃ zeros, (key.paddedBlock c).drop digest.size = List.replicate zeros 0 ++ 1 :: m

variable {key}

theorem unseal_eq_some_iff_opens {c m : Bytes} : key.unseal c = some m ↔ key.Opens c m := by
  have hlength : (key.padded c).length = key.publicNumbers.size := Bytes.length_ofNat _ _
  rw [opens_iff, unseal_eq_some_iff, ← padded, paddedBlock]
  cases hpadded : key.padded c with
  | nil => simp [Oaep.decode]
  | cons lead rest =>
    rw [hpadded, List.length_cons] at hlength
    rw [Oaep.decode_cons_eq_some_iff, hlength, Oaep.afterSeparator_eq_some_iff]
    simp

theorem decrypt_octets (c : Bytes) :
    (PrivateKey.rsa key).decrypt (.octets c) =
      match key.unseal c with
      | some m => .ok m
      | none => .error (.refusedByKey "Decryption") := rfl

theorem exists_fault_of_not_opens {c : Bytes} (h : ∀ m, ¬ key.Opens c m) :
    ∃ fault, (PrivateKey.rsa key).decrypt (.octets c) = .error fault := by
  have hnone : key.unseal c = none :=
    Option.eq_none_iff_forall_ne_some.2 fun m hm => h m (unseal_eq_some_iff_opens.1 hm)
  rw [decrypt_octets, hnone]
  exact ⟨_, rfl⟩

/-- The stages leave nothing out. -/
theorem refuses_iff {v : Value} :
    key.Refuses v ↔ ∃ fault, (PrivateKey.rsa key).decrypt v = .error fault := by
  constructor
  · intro hrefuses
    cases hrefuses with
    | notOctets _ h =>
      cases v with
      | octets c => exact absurd rfl (h c)
      | _ => exact ⟨_, rfl⟩
    | wrongLength c h => exact exists_fault_of_not_opens fun m hm => h hm.length_eq
    | outOfRange c h => exact exists_fault_of_not_opens fun m hm => Nat.not_lt.2 h hm.in_range
    | leadingOctet c h => exact exists_fault_of_not_opens fun m hm => h hm.leading_octet
    | smallModulus c h => exact exists_fault_of_not_opens fun m hm => Nat.not_le.2 h hm.large_modulus
    | labelDigest c h => exact exists_fault_of_not_opens fun m hm => h hm.label_digest
    | separator c h =>
      refine exists_fault_of_not_opens fun m hm => ?_
      obtain ⟨zeros, hzeros⟩ := hm.separator
      exact h zeros m hzeros
  · rintro ⟨fault, hfault⟩
    by_contra hrefuses
    cases v with
    | octets c =>
      -- where no stage refuses, a message comes out
      have hseparator : ¬ ∀ zeros m,
          (key.paddedBlock c).drop digest.size ≠ List.replicate zeros 0 ++ 1 :: m :=
        fun h => hrefuses (.separator c h)
      simp only [ne_eq, not_forall, not_not] at hseparator
      obtain ⟨zeros, m, hzeros⟩ := hseparator
      have hopens : key.Opens c m :=
        { length_eq := by_contra fun h => hrefuses (.wrongLength c h)
          in_range := Nat.not_le.1 fun h => hrefuses (.outOfRange c h)
          leading_octet := by_contra fun h => hrefuses (.leadingOctet c h)
          large_modulus := Nat.not_lt.1 fun h => hrefuses (.smallModulus c h)
          label_digest := by_contra fun h => hrefuses (.labelDigest c h)
          separator := ⟨zeros, hzeros⟩ }
      rw [decrypt_octets, unseal_eq_some_iff_opens.2 hopens] at hfault
      cases hfault
    | _ => exact hrefuses (.notOctets _ fun c h => by cases h)

end Rsa.PrivateNumbers

/-- The key fails to decrypt the value, and is not interrupted in doing so. -/
def PrivateKey.Fails (key : PrivateKey) (v : Value) : Prop :=
  ∃ fault, key.decrypt v = .error fault ∧ fault.isOrdinary = true

namespace PrivateKey

theorem fails_rsa_iff {key : Rsa.PrivateNumbers} {v : Value} :
    (rsa key).Fails v ↔ key.Refuses v := by
  rw [Rsa.PrivateNumbers.refuses_iff]
  constructor
  · rintro ⟨fault, hfault, -⟩
    exact ⟨fault, hfault⟩
  · rintro ⟨fault, hfault⟩
    refine ⟨fault, hfault, ?_⟩
    cases v with
    | octets c =>
      rw [Rsa.PrivateNumbers.decrypt_octets] at hfault
      split at hfault
      · cases hfault
      · cases hfault
        rfl
    | _ =>
      cases hfault
      rfl

theorem fails_scripted (publicKey : ScriptedPublicKey) {fault : Fault}
    (h : fault.kind ∉ [Kind.any, .base, .interrupt]) (v : Value) :
    (scripted ⟨publicKey, .raise fault⟩).Fails v :=
  ⟨fault, rfl, Fault.isOrdinary_iff.2 h⟩

end PrivateKey

namespace Cipher

theorem decrypt_of_fails {c : Cipher} {key : PrivateKey} (hkey : c.privateKey = some key)
    {v : Value} (h : key.Fails v) : c.decrypt v = .error .decryptionFailed := by
  obtain ⟨fault, hfault, hordinary⟩ := h
  simp [decrypt, hkey, hfault, hordinary]

theorem decrypt_eq_error_iff {c : Cipher} {key : PrivateKey} (hkey : c.privateKey = some key)
    {v : Value} {fault : Fault} (h : fault.isOrdinary = false) :
    c.decrypt v = .error fault ↔ key.decrypt v = .error fault := by
  rw [decrypt, hkey]
  dsimp only
  cases key.decrypt v with
  | ok m => simp
  | error raised =>
    cases hraised : raised.isOrdinary with
    | true =>
      -- neither the fault in its place nor the fault itself is the one that is not ordinary
      have hplace : Fault.decryptionFailed ≠ fault := fun heq => by rw [← heq] at h; cases h
      have hself : raised ≠ fault := fun heq => by rw [← heq, hraised] at h; cases h
      simp [hraised, hplace, hself]
    | false => simp [hraised]

end Cipher

namespace Service

theorem answering_decrypt {r : Reference} {a : Argument} {s : Service} {c : Cipher} {v : Value}
    (hr : (cipherOf r s).1 = .ok (.cipher c)) (ha : (resolve a s).1 = .ok v) :
    answering (.decrypt r a) (perform (.decrypt r a)) s =
      (.mk ((c.decrypt v).map Reply.octets) [], s) := by
  have hperform : perform (.decrypt r a) s = ((c.decrypt v).map Reply.octets, s) := by
    rw [perform, (cipherOf_still r).bind_of_ok hr, Value.decryption, Action.ofExcept_ok_bind,
      (resolve_still a).bind_of_ok ha]
    cases c.decrypt v <;> rfl
  simp [answering, hperform]

/-- Decryptions that fail are answered alike. Of two values that a private key fails to decrypt, at
whatever stage and with whatever ordinary fault, neither answer tells more than the other: one fault
without a cause, no line, and the service as it was. What a key decrypts is handed on as it is, and
only an interruption passes through. Without a private key no value is looked at. -/
theorem refusals_alike {s : Service} {r : Reference} {c : Cipher}
    (hr : (cipherOf r s).1 = .ok (.cipher c)) :
    let answer (a : Argument) := answering (.decrypt r a) (perform (.decrypt r a)) s
    let denotes (a : Argument) (v : Value) := (resolve a s).1 = .ok v
    (∀ key, c.privateKey = some key →
      (∀ a b v w, denotes a v → denotes b w → key.Fails v → key.Fails w → answer a = answer b) ∧
      ∀ a v, denotes a v →
        (key.Fails v → answer a = (.mk (.error .decryptionFailed) [], s)) ∧
        (∀ m, key.decrypt v = .ok m → answer a = (.mk (.ok (.octets m)) [], s)) ∧
        ∀ fault, fault.isOrdinary = false →
          ((answer a).1.result = .error fault ↔ key.decrypt v = .error fault)) ∧
    (c.privateKey = none → ∀ a v, denotes a v →
      answer a = (.mk (.error .missingPrivateKey) [], s)) ∧
    (∀ numbers v, (PrivateKey.rsa numbers).Fails v ↔ numbers.Refuses v) ∧
    (∀ publicKey fault v, fault.kind ∉ [Kind.any, .base, .interrupt] →
      (PrivateKey.scripted ⟨publicKey, .raise fault⟩).Fails v) ∧
    Fault.decryptionFailed.kind = .decryption ∧ Fault.decryptionFailed.cause = none ∧
    Fault.decryptionFailed.message = "RSA-OAEP decryption failed" := by
  intro answer denotes
  have hanswer (a : Argument) (v : Value) (ha : denotes a v) :
      answer a = (.mk ((c.decrypt v).map Reply.octets) [], s) := answering_decrypt hr ha
  refine ⟨fun key hkey => ?_, fun hnone a v ha => ?_, fun _ _ => PrivateKey.fails_rsa_iff,
    fun publicKey fault v h => PrivateKey.fails_scripted publicKey h v, rfl, rfl, rfl⟩
  · have hfails (a : Argument) (v : Value) (ha : denotes a v) (h : key.Fails v) :
        answer a = (.mk (.error .decryptionFailed) [], s) := by
      rw [hanswer a v ha, Cipher.decrypt_of_fails hkey h]
      rfl
    refine ⟨fun a b v w ha hb hv hw => ?_, fun a v ha => ⟨hfails a v ha, fun m hm => ?_, ?_⟩⟩
    · rw [hfails a v ha hv, hfails b w hb hw]
    · rw [hanswer a v ha, Cipher.decrypt, hkey]
      dsimp only
      rw [hm]
      rfl
    · intro fault hfault
      rw [hanswer a v ha, Answer.result, ← Cipher.decrypt_eq_error_iff hkey hfault]
      cases c.decrypt v <;> simp [Except.map]
  · rw [hanswer a v ha, Cipher.decrypt, hnone]
    rfl

theorem refusals_alike_unread :
    let s : Service :=
      { supply := constantSupply, named := [("own", ⟨.cipher Cipher.mersenneReceiver, 0⟩)] }
    let answer (v : Value) :=
      let op := Operation.decrypt (.named "own") (.value v)
      answering op (perform op) s
    let large := Value.octets (List.replicate 141 255)
    answer .absent = answer large ∧ answer large = (.mk (.error .decryptionFailed) [], s) := by
  intro s answer large
  have hr : (cipherOf (.named "own") s).1 = .ok (.cipher Cipher.mersenneReceiver) := rfl
  obtain ⟨hholder, -, hstages, -⟩ := refusals_alike hr
  obtain ⟨halike, hone⟩ := hholder (.rsa Cipher.mersenneKey) rfl
  have habsent : (PrivateKey.rsa Cipher.mersenneKey).Fails .absent :=
    (hstages _ _).2 (.notOctets _ fun c h => by cases h)
  have hlarge : (PrivateKey.rsa Cipher.mersenneKey).Fails large :=
    (hstages _ _).2 (.outOfRange _ (by decide +kernel))
  exact ⟨halike (.value .absent) (.value large) _ _ rfl rfl habsent hlarge,
    (hone (.value large) large rfl).1 hlarge⟩

end Service
end PayloadCipher
