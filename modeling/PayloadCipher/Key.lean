import PayloadCipher.Der
import PayloadCipher.Fault
import PayloadCipher.Rsa

/-! Keys: RSA keys by their numbers, and scripted keys that stand in for them in tests. A scripted
key answers each request in a fixed way, has any size, and carries a label in place of public
numbers. -/

namespace PayloadCipher

inductive Behaviour where
  | reverse
  | answer (octets : Bytes)
  | raise (fault : Fault)
deriving DecidableEq, Repr

/-- How a key answers when it is asked for its encoding. What is no octets cannot be hashed. -/
inductive Encoding where
  | octets (b : Bytes)
  | other (typeName : String)
  | raise (fault : Fault)
deriving DecidableEq, Repr

structure ScriptedPublicKey where
  size : Int
  encryption : Behaviour
  encoding : Encoding
  label : String
deriving DecidableEq, Repr

/-- Such a key always has its public key: to ask for that cannot fail. -/
structure ScriptedPrivateKey where
  publicKey : ScriptedPublicKey
  decryption : Behaviour
deriving DecidableEq, Repr

inductive PublicKey where
  | rsa (numbers : Rsa.PublicNumbers)
  | scripted (key : ScriptedPublicKey)
deriving DecidableEq, Repr

inductive PrivateKey where
  | rsa (numbers : Rsa.PrivateNumbers)
  | scripted (key : ScriptedPrivateKey)
deriving DecidableEq, Repr

/-- What two public keys have in common exactly if they are the same key. -/
inductive KeyIdentity where
  | numbers (n : Rsa.PublicNumbers)
  | label (s : String)
deriving DecidableEq, Repr

def PublicKey.identity : PublicKey → KeyIdentity
  | rsa numbers => .numbers numbers
  | scripted key => .label key.label

def PublicKey.size : PublicKey → Int
  | rsa numbers => Bytes.bitLength numbers.n
  | scripted key => key.size

def PublicKey.typeName : PublicKey → String
  | rsa _ => "RSAPublicKey"
  | scripted _ => "StubPublic"

def PrivateKey.publicKey : PrivateKey → PublicKey
  | rsa numbers => .rsa numbers.publicNumbers
  | scripted key => .scripted key.publicKey

def PrivateKey.typeName : PrivateKey → String
  | rsa _ => "RSAPrivateKey"
  | scripted _ => "StubPrivate"

def PublicKey.encoded : PublicKey → Encoding
  | rsa numbers => .octets (Der.subjectPublicKeyInfo numbers.n numbers.e)
  | scripted key => key.encoding

def PublicKey.encoding (key : PublicKey) : Except Fault Bytes :=
  match key.encoded with
  | .octets b => .ok b
  | .other typeName => .error (.notHashable typeName)
  | .raise fault => .error fault

theorem PublicKey.encoding_eq_ok_iff {key : PublicKey} {b : Bytes} :
    key.encoding = .ok b ↔ key.encoded = .octets b := by
  rw [encoding]
  cases key.encoded <;> simp

end PayloadCipher
