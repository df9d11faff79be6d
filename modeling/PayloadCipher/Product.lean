import PayloadCipher.Cipher

/-! Products: what a factory hands back, and what can be asked of it. A member that a product lacks
is a fault of its own, and one that is there may still refuse what it is given. -/

namespace PayloadCipher

inductive FieldChange where
  | assign
  | delete
deriving DecidableEq, Repr

def FieldChange.verb : FieldChange → String
  | assign => "assign to"
  | delete => "delete"

namespace Value

def algorithm : Value → Except Fault Json
  | cipher _ => .ok (.text Cipher.algorithm)
  | testCipher c => c.algorithm
  | v => .error (.missingMember v.fullTypeName "encryption_algorithm")

/-- Whether the value can decrypt, if it has anything to say about it. A fault that says that the
member is missing is as good as having none; any other one comes out. -/
def canDecrypt? : Value → Except Fault (Option Json)
  | cipher c => .ok (some (.bool c.canDecrypt))
  | testCipher c =>
    match c.canDecrypt with
    | none | some (.ok .null) => .ok none
    | some (.ok v) => .ok (some v)
    | some (.error fault) => if fault.isMissing then .ok none else .error fault
  | _ => .ok none

def saysItDecrypts : Value → Except Fault Bool
  | cipher c => .ok c.canDecrypt
  | testCipher c =>
    match c.canDecrypt with
    | some found => found.map Json.isTruthy
    | none => .error (.missingMember "FakeCipher" "can_decrypt")
  | v => .error (.missingMember v.fullTypeName "can_decrypt")

def encrypt (v : Value) (seed : Rsa.Seed) (plaintext : Value) : Except Fault Bytes :=
  match v with
  | cipher c => c.encrypt seed plaintext
  | testCipher _ => plaintext.reversed
  | publicKey key => .error (.missingArgument (key.typeName ++ ".encrypt") "padding")
  | v => .error (.missingMember v.fullTypeName "encrypt")

def decryption : Value → Except Fault (Value → Except Fault Bytes)
  | cipher c => .ok c.decrypt
  | testCipher _ => .ok Value.reversed
  | privateKey key =>
    .ok fun _ => .error (.missingArgument (key.typeName ++ ".decrypt") "padding")
  | v => .error (.missingMember v.fullTypeName "decrypt")

def decrypt (v : Value) (ciphertext : Value) : Except Fault Bytes := do
  (← v.decryption) ciphertext

def signature : Value → Except Fault Json
  | cipher c => c.signature.map Json.text
  | testCipher c => c.signature.getD (.error (.missingMember "FakeCipher" "public_key_signature"))
  | v => .error (.missingMember v.fullTypeName "public_key_signature")

def pairedTypeNames : List String :=
  ["RSAPrivateKey", "ECPrivateKey", "Ed25519PrivateKey", "X25519PrivateKey", "Ed448PrivateKey",
   "X448PrivateKey", "RSAPublicNumbers"]

/-- Only what is scripted takes new members, and `taken` are those that it took. Gives what it has
then. Of a cipher only the fields are guarded as such. -/
def changeMember (v : Value) (taken : List String) (change : FieldChange) (member : String) :
    Except Fault (List String) :=
  let fixed := Fault.fixedMember v.fullTypeName member
  match v with
  | cipher _ =>
    if member ∈ ["public_key", "private_key"] then .error (.frozenField change.verb member)
    else .error .brokenGuard
  | testCipher _ | publicKey (.scripted _) | privateKey (.scripted _) =>
    match change with
    | .assign => .ok (member :: taken)
    | .delete => if taken.contains member then .ok (taken.filter (· ≠ member)) else
        .error (fixed false)
  | v => .error (fixed (member = "public_key" && pairedTypeNames.contains v.typeName))

end Value

inductive Summary where
  | nothing
  | cipher (text : String) (canDecrypt : Bool) (keySize maxPlaintextSize : Int)
      (algorithm : String) (hasPrivateKey : Bool)
  | testCipher (label : Json) (keyType : String)
  | other (typeName : String)

def Value.summary : Value → Summary
  | absent => .nothing
  | cipher c =>
    .cipher c.describe c.canDecrypt c.keySize c.maxPlaintextSize Cipher.algorithm
      c.privateKey.isSome
  | testCipher c => .testCipher c.label c.keyType
  | v => .other v.typeName

end PayloadCipher
