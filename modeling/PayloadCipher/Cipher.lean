import PayloadCipher.Value

/-! The RSA-OAEP cipher: four ways to build one, and its operations. Ordinary faults of the key are
wrapped once: encryption and signature tell the cause, decryption never does, so that no caller
can learn at which stage a ciphertext was refused. -/

namespace PayloadCipher.Cipher

def algorithm : String := "RSA-OAEP-SHA512"

def ofPublicKey : Value → Except Fault Cipher
  | .publicKey key => .ok ⟨key, none, by simp⟩
  | v => .error (.invalidKeyType v.typeName)

def ofPrivateKey : Value → Except Fault Cipher
  | .privateKey key => .ok ⟨key.publicKey, some key, by rintro k ⟨⟩; rfl⟩
  | v => .error (.invalidKeyType v.typeName)

def ofKey : Value → Except Fault Cipher
  | .privateKey key => ofPrivateKey (.privateKey key)
  | .publicKey key => ofPublicKey (.publicKey key)
  | v => .error (.invalidKeyType v.typeName)

def ofPair : Value → Value → Except Fault Cipher
  | .publicKey key, .absent => .ok ⟨key, none, by simp⟩
  | .publicKey key, .privateKey priv =>
    if h : priv.publicKey.identity = key.identity then
      .ok ⟨key, some priv, by rintro k ⟨⟩; exact h⟩
    else .error .keyMismatch
  | .publicKey _, v => .error (.invalidKeyType v.typeName)
  | v, _ => .error (.invalidKeyType v.typeName)

def canDecrypt (c : Cipher) : Bool := c.privateKey.isSome

def keySize (c : Cipher) : Int := c.publicKey.size

def maxPlaintextSize (c : Cipher) : Int :=
  max 0 ((c.keySize + 7) / 8 - Oaep.overhead Rsa.digest)

def encrypt (c : Cipher) (seed : Rsa.Seed) (plaintext : Value) : Except Fault Bytes :=
  match c.publicKey.encrypt seed plaintext with
  | .ok octets => .ok octets
  | .error fault => .error (if fault.isOrdinary then .encryptionFailed fault else fault)

def decrypt (c : Cipher) (ciphertext : Value) : Except Fault Bytes :=
  match c.privateKey with
  | none => .error .missingPrivateKey
  | some key =>
    match key.decrypt ciphertext with
    | .ok octets => .ok octets
    | .error fault => .error (if fault.isOrdinary then .decryptionFailed else fault)

/-- Hashing comes after the key has answered, and nothing wraps its faults. -/
def signature (c : Cipher) : Except Fault String :=
  match c.publicKey.encoded with
  | .octets encoding => .ok (fingerprint encoding)
  | .other typeName => .error (.notHashable typeName)
  | .raise fault => .error (if fault.isOrdinary then .serializationFailed fault else fault)

def describe (c : Cipher) : String :=
  "RSAOAEPCipher(algorithm=" ++ Text.quoted algorithm ++ ", key_size=" ++
    Decimal.integerText c.keySize ++ ", can_decrypt=" ++ Json.inspect (.bool c.canDecrypt) ++ ")"

end PayloadCipher.Cipher
