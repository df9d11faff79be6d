import PayloadCipher.Fingerprint
import PayloadCipher.Key

/-! Values that callers hand over and that cipher factories return. Most are told apart by the name
of their type and by what they hold, if that can be seen; octet strings, keys and ciphers are used.
A cipher always holds a public key, and a private one only if both have the same identity. -/

namespace PayloadCipher

structure Cipher where
  publicKey : PublicKey
  privateKey : Option PrivateKey
  paired : ∀ k, privateKey = some k → k.publicKey.identity = publicKey.identity

/-- A cipher for tests: it reverses octets, and each of its other members is scripted or missing.
`label` is how it shows itself. -/
structure TestCipher where
  label : Json
  keyType : String
  algorithm : Except Fault Json
  canDecrypt : Option (Except Fault Json)
  signature : Option (Except Fault Json)

def homeModules : List (String × String) :=
  let keys := "cryptography.hazmat.bindings._rust.openssl."
  [("RSAPublicKey", keys ++ "rsa"), ("RSAPrivateKey", keys ++ "rsa"),
   ("ECPublicKey", keys ++ "ec"), ("ECPrivateKey", keys ++ "ec"),
   ("Ed25519PublicKey", keys ++ "ed25519"), ("Ed25519PrivateKey", keys ++ "ed25519"),
   ("X25519PrivateKey", keys ++ "x25519"), ("Ed448PrivateKey", keys ++ "ed448"),
   ("X448PrivateKey", keys ++ "x448"),
   ("RSAPublicNumbers", "cryptography.hazmat.primitives.asymmetric.rsa")]

inductive Value where
  | absent
  | octets (b : Bytes)
  | publicKey (key : PublicKey)
  | privateKey (key : PrivateKey)
  | cipher (c : Cipher)
  | testCipher (c : TestCipher)
  | other (typeName : String) (content : Option Json)

def Value.typeName : Value → String
  | absent => "NoneType"
  | octets _ => "bytes"
  | publicKey key => key.typeName
  | privateKey key => key.typeName
  | cipher _ => "RSAOAEPCipher"
  | testCipher _ => "FakeCipher"
  | other typeName _ => typeName

/-- A type by its name. Foreign types may share a name with the own ones and are others still. -/
inductive ValueType where
  | own (name : String)
  | foreign (name : String)
deriving DecidableEq, Repr

def ValueType.name : ValueType → String
  | own name | foreign name => name

def Value.type : Value → ValueType
  | other typeName _ => .foreign typeName
  | v => .own v.typeName

theorem Value.name_type (v : Value) : v.type.name = v.typeName := by
  cases v <;> rfl

def Value.fullTypeName (v : Value) : String :=
  match homeModules.lookup v.typeName with
  | some home => home ++ "." ++ v.typeName
  | none => v.typeName

def Value.reversed : Value → Except Fault Bytes
  | octets b | other _ (some (.octets b)) => .ok b.reverse
  | v => .error (.notReversible v.fullTypeName)

/-- Values of which there is only one, so that whoever holds an equal value holds the same. -/
inductive Sole where
  | absent
  | flag (b : Bool)
  | small (i : Int)
  | emptyText
  | character (c : Char)
  | emptyOctets
  | octet (x : UInt8)
  | emptyTuple
deriving DecidableEq, Repr

def Value.sole? : Value → Option Sole
  | absent => some .absent
  | octets [] => some .emptyOctets
  | octets [x] => some (.octet x)
  | other _ (some (.bool b)) => some (.flag b)
  | other _ (some (.int i)) => if -5 ≤ i ∧ i ≤ 256 then some (.small i) else none
  | other _ (some (.text s)) =>
    match s.toList with
    | [] => some .emptyText
    | [c] => if c.toNat < 256 then some (.character c) else none
    | _ => none
  | other typeName (some (.array [])) => if typeName = "tuple" then some .emptyTuple else none
  | _ => none

def Behaviour.respond (behaviour : Behaviour) (argument : Value) : Except Fault Bytes :=
  match behaviour with
  | reverse => argument.reversed
  | answer octets => .ok octets
  | raise fault => .error fault

def PublicKey.encrypt (key : PublicKey) (seed : Rsa.Seed) (argument : Value) :
    Except Fault Bytes :=
  match key with
  | scripted key => key.encryption.respond argument
  | rsa numbers =>
    match argument with
    | .octets m =>
      match numbers.seal seed m with
      | some c => .ok c
      | none => .error (.refusedByKey "Encryption")
    | .absent => .error (.notOctets none)
    | v => .error (.notOctets (some v.typeName))

def PrivateKey.decrypt (key : PrivateKey) (argument : Value) : Except Fault Bytes :=
  match key with
  | scripted key => key.decryption.respond argument
  | rsa numbers =>
    match argument with
    | .octets c =>
      match numbers.unseal c with
      | some m => .ok m
      | none => .error (.refusedByKey "Decryption")
    | .absent => .error (.notOctets none)
    | v => .error (.notOctets (some v.typeName))

end PayloadCipher
