import PayloadCipher.Base64
import PayloadCipher.Digest.Sha256

/-! The name of a public key: the SHA-256 digest of its encoding in base 64, without closing
signs, after a label that tells the digest. -/

namespace PayloadCipher

def fingerprintLabel : String := "SHA256:"

def fingerprint (encoding : Bytes) : String :=
  fingerprintLabel ++
    String.ofList (Base64.encodeOpen Base64.standard (Digest.sha256.hash encoding))

end PayloadCipher
