import PayloadCipher.Bytes

/-! Distinguished encoding of RSA public keys. `subjectPublicKeyInfo` writes the modulus and the
exponent in definite, minimal lengths and integers; `readSubjectPublicKeyInfo?` is strict and
reads nothing but that one form, with no octet left over at any level. -/

namespace PayloadCipher.Der

def lengthOctets (n : Nat) : Bytes :=
  if n < 128 then [UInt8.ofNat n]
  else UInt8.ofNat (128 + Bytes.width n) :: Bytes.ofNat (Bytes.width n) n

def element (tag : UInt8) (content : Bytes) : Bytes :=
  tag :: (lengthOctets content.length ++ content)

def integerTag : UInt8 := 0x02
def bitStringTag : UInt8 := 0x03
def nullTag : UInt8 := 0x05
def objectTag : UInt8 := 0x06
def sequenceTag : UInt8 := 0x30

/-- One octet more than the value needs when its top bit is set, so that it reads as
non-negative. -/
def integerContent (n : Nat) : Bytes := Bytes.ofNat (Bytes.bitLength n / 8 + 1) n

def integer (n : Nat) : Bytes := element integerTag (integerContent n)

/-- The object identifier 1.2.840.113549.1.1.1, that of RSA keys. -/
def rsaEncryption : Bytes := [0x2a, 0x86, 0x48, 0x86, 0xf7, 0x0d, 0x01, 0x01, 0x01]

def algorithmIdentifier : Bytes :=
  element sequenceTag (element objectTag rsaEncryption ++ element nullTag [])

def subjectPublicKeyInfo (n e : Nat) : Bytes :=
  element sequenceTag <|
    algorithmIdentifier ++
      element bitStringTag (0 :: element sequenceTag (integer n ++ integer e))

/-- A length in its minimal form, and what follows it. The greatest count of octets is reserved. -/
def readLength? : Bytes → Option (Nat × Bytes)
  | [] => none
  | x :: rest =>
    if x.toNat < 128 then some (x.toNat, rest)
    else
      let count := x.toNat - 128
      let n := Bytes.toNat (rest.take count)
      if count < 127 ∧ count ≤ rest.length ∧ 128 ≤ n ∧ Bytes.width n = count then
        some (n, rest.drop count)
      else none

def readElement? (tag : UInt8) : Bytes → Option (Bytes × Bytes)
  | [] => none
  | x :: rest =>
    if x = tag then
      match readLength? rest with
      | none => none
      | some (n, rest) => if n ≤ rest.length then some (rest.take n, rest.drop n) else none
    else none

def readOnly? (tag : UInt8) (b : Bytes) : Option Bytes :=
  match readElement? tag b with
  | some (content, []) => some content
  | _ => none

def readInteger? (b : Bytes) : Option (Nat × Bytes) :=
  match readElement? integerTag b with
  | none => none
  | some (content, rest) =>
    let n := Bytes.toNat content
    if integerContent n = content then some (n, rest) else none

def readKeyNumbers? (b : Bytes) : Option (Nat × Nat) := do
  let (n, rest) ← readInteger? b
  let (e, rest) ← readInteger? rest
  if rest = [] then some (n, e) else none

def readSubjectPublicKeyInfo? (b : Bytes) : Option (Nat × Nat) := do
  let body ← readOnly? sequenceTag b
  let (algorithm, rest) ← readElement? sequenceTag body
  let (object, parameters) ← readElement? objectTag algorithm
  let null ← readOnly? nullTag parameters
  let bits ← readOnly? bitStringTag rest
  match bits with
  | 0 :: key =>
    if object = rsaEncryption ∧ null = [] then
      (readOnly? sequenceTag key).bind readKeyNumbers?
    else none
  | _ => none

end PayloadCipher.Der
