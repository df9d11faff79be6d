import PayloadCipher.Proofs.Fingerprint

/-! The distinguished form of public keys. Its rules are stated on octets, apart from the writer and
the reader: lengths and integers are minimal, what belongs to an element fills it, and the key comes
with the identifier of its algorithm. Two numbers have one form only. It is the one that is hashed
for the name of a key, and the only one that the reader takes for them. -/

namespace PayloadCipher.Der

/-- Octets that tell a length: one octet below 128, or the octets of the length without a zero in
front, after their count. The greatest count is reserved. -/
inductive IsLength (n : Nat) : Bytes → Prop
  | short (x : UInt8) (value : x.toNat = n) (small : n < 128) : IsLength n [x]
  | long (count x : UInt8) (octets : Bytes) (value : Bytes.toNat (x :: octets) = n)
      (large : 128 ≤ n) (minimal : x ≠ 0) (counted : count.toNat = 128 + (x :: octets).length)
      (free : count ≠ 255) : IsLength n (count :: x :: octets)

/-- Octets of a non-negative integer: the first bit is the sign and is clear, and not all of the
first nine bits are. -/
structure IsInteger (n : Nat) (content : Bytes) : Prop where
  value : Bytes.toNat content = n
  nonempty : content ≠ []
  nonnegative : ∀ x rest, content = x :: rest → x.toNat < 128
  minimal : ∀ x rest, content = 0 :: x :: rest → 128 ≤ x.toNat

def elementOf (tag : UInt8) (form : Bytes → Prop) (b : Bytes) : Prop :=
  ∃ length content, IsLength content.length length ∧ form content ∧ b = tag :: (length ++ content)

def inTurn (first second : Bytes → Prop) (b : Bytes) : Prop :=
  ∃ x y, first x ∧ second y ∧ b = x ++ y

def IsAlgorithm : Bytes → Prop :=
  elementOf sequenceTag
    (inTurn (elementOf objectTag (· = rsaEncryption)) (elementOf nullTag (· = [])))

def IsKeyNumbers (n e : Nat) : Bytes → Prop :=
  elementOf sequenceTag
    (inTurn (elementOf integerTag (IsInteger n)) (elementOf integerTag (IsInteger e)))

/-- The zero at the head of the bit string is the count of its unused bits. -/
def IsSubjectPublicKeyInfo (n e : Nat) : Bytes → Prop :=
  elementOf sequenceTag
    (inTurn IsAlgorithm (elementOf bitStringTag (inTurn (· = [0]) (IsKeyNumbers n e))))

section Length

variable {n : Nat} {b : Bytes}

theorem IsLength.eq_lengthOctets (h : IsLength n b) : n < lengthBound ∧ b = lengthOctets n := by
  cases h with
  | short x value small =>
    have hbound : 128 ≤ lengthBound := by decide +kernel
    refine ⟨by omega, ?_⟩
    rw [lengthOctets, if_pos small, ← value, UInt8.ofNat_toNat]
  | long count x octets value large minimal counted free =>
    have hwidth : Bytes.width n = (x :: octets).length := by
      rw [← value, Bytes.width_toNat_cons_iff.2 minimal, List.length_cons]
    have hoctets : Bytes.ofNat (Bytes.width n) n = x :: octets := by
      rw [hwidth, ← value, Bytes.ofNat_toNat]
    have hcount : count.toNat ≠ 255 := fun hfull => free (UInt8.toNat_inj.1 hfull)
    have hlt := count.toNat_lt
    refine ⟨(Bytes.width_le_iff n 126).1 (by omega), ?_⟩
    rw [lengthOctets, if_neg (by omega), hoctets, hwidth, ← counted, UInt8.ofNat_toNat]

theorem isLength_lengthOctets (hn : n < lengthBound) : IsLength n (lengthOctets n) := by
  have hwidth := width_le_of_lt_lengthBound hn
  unfold lengthOctets
  split
  case isTrue hshort =>
    refine .short _ ?_ hshort
    rw [UInt8.toNat_ofNat']
    omega
  case isFalse hlong =>
    have hvalue := Bytes.toNat_ofNat_width n
    have hlength := Bytes.length_ofNat (Bytes.width n) n
    have hcount : (UInt8.ofNat (128 + Bytes.width n)).toNat = 128 + Bytes.width n := by
      rw [UInt8.toNat_ofNat']
      omega
    have hfree : UInt8.ofNat (128 + Bytes.width n) ≠ 255 := by
      intro hfull
      have hvalue : (255 : UInt8).toNat = 255 := rfl
      rw [hfull] at hcount
      omega
    cases hoctets : Bytes.ofNat (Bytes.width n) n with
    | nil =>
      rw [hoctets, Bytes.toNat_nil] at hvalue
      omega
    | cons x octets =>
      rw [hoctets] at hvalue hlength
      have hminimal : x ≠ 0 := by
        rw [← Bytes.width_toNat_cons_iff, hvalue, ← hlength, List.length_cons]
      exact .long _ x octets hvalue (by omega) hminimal (by rw [hcount, hlength]) hfree

theorem isLength_iff : IsLength n b ↔ n < lengthBound ∧ b = lengthOctets n := by
  constructor
  · exact IsLength.eq_lengthOctets
  · intro h
    rw [h.2]
    exact isLength_lengthOctets h.1

end Length

section Integer

variable {n : Nat} {content : Bytes}

theorem length_integerContent_eq_iff (n k : Nat) :
    (integerContent n).length = k + 1 ↔ n < 128 * 256 ^ k ∧ (k ≠ 0 → 128 * 256 ^ (k - 1) ≤ n) := by
  have hpower (j : Nat) : 128 * 256 ^ j = 2 ^ (8 * j + 7) := by
    rw [Nat.pow_add, Nat.pow_mul, Nat.mul_comm]
  have hlow : 128 * 256 ^ (k - 1) ≤ n ↔ 8 * (k - 1) + 7 < Bytes.bitLength n := by
    rw [hpower, ← Nat.not_lt, ← Bytes.bitLength_le_iff, Nat.not_le]
  rw [integerContent, Bytes.length_ofNat, hlow, hpower, ← Bytes.bitLength_le_iff]
  omega

theorem leading_bits_iff (x : UInt8) (rest : Bytes) :
    (x.toNat < 128 ∧ ∀ y tail, x :: rest = 0 :: y :: tail → 128 ≤ y.toNat) ↔
      (integerContent (Bytes.toNat (x :: rest))).length = rest.length + 1 := by
  rw [length_integerContent_eq_iff, Bytes.toNat_cons_lt_iff]
  refine and_congr_right fun _ => ?_
  cases rest with
  | nil => simp
  | cons y tail =>
    have hbound : 128 * 256 ^ tail.length ≤ Bytes.toNat (y :: tail) ↔ 128 ≤ y.toNat := by
      rw [← Nat.not_lt, Bytes.toNat_cons_lt_iff, Nat.not_lt]
    rw [List.length_cons, Nat.add_sub_cancel]
    by_cases hx : x = 0
    · rw [hx, Bytes.toNat_zero_cons, hbound]
      simp
    · -- the first octet alone makes the number large enough
      have hlarge : ¬ Bytes.toNat (x :: y :: tail) < 1 * 256 ^ (y :: tail).length := by
        rw [Bytes.toNat_cons_lt_iff]
        exact fun hzero => hx (UInt8.toNat_inj.1 (Nat.lt_one_iff.1 hzero))
      rw [List.length_cons, Nat.pow_succ] at hlarge
      simp only [List.cons.injEq, hx, false_and, false_implies, implies_true, true_iff]
      omega

theorem isInteger_iff : IsInteger n content ↔ content = integerContent n := by
  constructor
  · intro h
    apply Bytes.eq_of_toNat_eq
    · cases content with
      | nil => exact absurd rfl h.nonempty
      | cons x rest =>
        have hlength := (leading_bits_iff x rest).1 ⟨h.nonnegative x rest rfl, h.minimal⟩
        rw [← h.value, hlength, List.length_cons]
    · rw [h.value, toNat_integerContent]
  · intro h
    have hvalue : Bytes.toNat content = n := by rw [h, toNat_integerContent]
    cases content with
    | nil =>
      have hlength := congrArg List.length h
      rw [integerContent, Bytes.length_ofNat] at hlength
      cases hlength
    | cons x rest =>
      obtain ⟨hsign, hminimal⟩ := (leading_bits_iff x rest).2 (by rw [hvalue, ← h, List.length_cons])
      refine ⟨hvalue, List.cons_ne_nil _ _, ?_, hminimal⟩
      intro y tail heq
      rw [← List.head_eq_of_cons_eq heq]
      exact hsign

end Integer

section Element

variable {first second form : Bytes → Prop} {P Q : Prop} {p q : Bytes}

theorem elementOf_iff (tag : UInt8) (hform : ∀ content, form content ↔ P ∧ content = p)
    (b : Bytes) : elementOf tag form b ↔ (P ∧ p.length < lengthBound) ∧ b = element tag p := by
  constructor
  · intro h
    obtain ⟨length, content, hlength, hcontent, hb⟩ := h
    obtain ⟨hP, hp⟩ := (hform content).1 hcontent
    rw [hp] at hlength hb
    obtain ⟨hbound, hoctets⟩ := isLength_iff.1 hlength
    exact ⟨⟨hP, hbound⟩, by rw [hb, hoctets, element]⟩
  · intro h
    obtain ⟨⟨hP, hbound⟩, hb⟩ := h
    exact ⟨lengthOctets p.length, p, isLength_iff.2 ⟨hbound, rfl⟩, (hform p).2 ⟨hP, rfl⟩, hb⟩

theorem inTurn_iff (hfirst : ∀ x, first x ↔ P ∧ x = p) (hsecond : ∀ y, second y ↔ Q ∧ y = q)
    (b : Bytes) : inTurn first second b ↔ (P ∧ Q) ∧ b = p ++ q := by
  constructor
  · intro h
    obtain ⟨x, y, hx, hy, hb⟩ := h
    obtain ⟨hP, hp⟩ := (hfirst x).1 hx
    obtain ⟨hQ, hq⟩ := (hsecond y).1 hy
    exact ⟨⟨hP, hQ⟩, by rw [hb, hp, hq]⟩
  · intro h
    obtain ⟨⟨hP, hQ⟩, hb⟩ := h
    exact ⟨p, q, (hfirst p).2 ⟨hP, rfl⟩, (hsecond q).2 ⟨hQ, rfl⟩, hb⟩

end Element

theorem isAlgorithm_iff (b : Bytes) : IsAlgorithm b ↔ True ∧ b = algorithmIdentifier := by
  have hobject := elementOf_iff objectTag (p := rsaEncryption) fun _ => (and_iff_right trivial).symm
  have hnull := elementOf_iff nullTag (p := []) fun _ => (and_iff_right trivial).symm
  have hbounds : ((True ∧ rsaEncryption.length < lengthBound) ∧
      True ∧ ([] : Bytes).length < lengthBound) ∧
      (element objectTag rsaEncryption ++ element nullTag []).length < lengthBound := by
    decide +kernel
  rw [IsAlgorithm, elementOf_iff sequenceTag (inTurn_iff hobject hnull), and_iff_right hbounds,
    true_and, algorithmIdentifier]

section Numbers

variable {n e : Nat}

theorem isKeyNumbers_iff (b : Bytes) : IsKeyNumbers n e b ↔
    (((integerContent n).length < lengthBound ∧ (integerContent e).length < lengthBound) ∧
      (integer n ++ integer e).length < lengthBound) ∧
    b = element sequenceTag (integer n ++ integer e) := by
  have hinteger (m : Nat) (b : Bytes) : elementOf integerTag (IsInteger m) b ↔
      (integerContent m).length < lengthBound ∧ b = integer m := by
    rw [elementOf_iff integerTag fun _ => isInteger_iff.trans (and_iff_right trivial).symm, true_and,
      integer]
  exact elementOf_iff sequenceTag (inTurn_iff (hinteger n) (hinteger e)) b

theorem isSubjectPublicKeyInfo_iff {b : Bytes} : IsSubjectPublicKeyInfo n e b ↔
    (keyInfoBody n e).length < lengthBound ∧ b = subjectPublicKeyInfo n e := by
  have hbits := elementOf_iff bitStringTag (inTurn_iff (p := [0])
    (fun _ => (and_iff_right trivial).symm) (isKeyNumbers_iff (n := n) (e := e)))
  rw [IsSubjectPublicKeyInfo, elementOf_iff sequenceTag (inTurn_iff isAlgorithm_iff hbits)]
  constructor
  · intro h
    exact ⟨h.1.2, h.2⟩
  · intro h
    obtain ⟨hstring, hsequence, hn, he⟩ := layers_lt h.1
    exact ⟨⟨⟨trivial, ⟨trivial, ⟨hn, he⟩, hsequence⟩, hstring⟩, h.1⟩, h.2⟩

end Numbers

theorem readSubjectPublicKeyInfo?_eq_some_iff_isSubjectPublicKeyInfo {b : Bytes} {n e : Nat} :
    readSubjectPublicKeyInfo? b = some (n, e) ↔ IsSubjectPublicKeyInfo n e b := by
  rw [readSubjectPublicKeyInfo?_eq_some_iff, isSubjectPublicKeyInfo_iff]

end PayloadCipher.Der

namespace PayloadCipher.Cipher

/-- What is hashed for the name of a key is the distinguished form of its numbers: the reader takes it
for them, and takes no other octets for them. The reader is strict, for it takes octets for two
numbers just if they keep the rules. -/
theorem hashed_encoding_unique {c : Cipher} {key : Rsa.PublicNumbers} (hkey : c.publicKey = .rsa key)
    (hn : Bytes.width key.n < 2 ^ 56) (he : Bytes.width key.e < 2 ^ 56) :
    (∃ encoding, c.publicKey.encoding = .ok encoding ∧
      c.signature = .ok ("SHA256:" ++ String.ofList
        (Base64.encodeOpen Base64.standard (Digest.sha256.hash encoding))) ∧
      Der.readSubjectPublicKeyInfo? encoding = some (key.n, key.e) ∧
      ∀ b, Der.readSubjectPublicKeyInfo? b = some (key.n, key.e) → b = encoding) ∧
    ∀ b n e, Der.readSubjectPublicKeyInfo? b = some (n, e) ↔ Der.IsSubjectPublicKeyInfo n e b := by
  have hencoding : c.publicKey.encoding = .ok (Der.subjectPublicKeyInfo key.n key.e) := by
    rw [hkey]
    rfl
  constructor
  · refine ⟨_, hencoding, signature_eq_ok_iff.2 ⟨_, hencoding, rfl⟩,
      Der.readSubjectPublicKeyInfo?_subjectPublicKeyInfo hn he, ?_⟩
    intro b hb
    exact (Der.eq_of_readSubjectPublicKeyInfo? hb).2
  · intro b n e
    exact Der.readSubjectPublicKeyInfo?_eq_some_iff_isSubjectPublicKeyInfo

def borderKey : Rsa.PublicNumbers := ⟨256 ^ 127 - 1, 65537⟩

theorem hashed_encoding_unique_border :
    let c : Cipher := ⟨.rsa borderKey, none, by simp⟩
    ∃ encoding, c.signature = .ok ("SHA256:" ++ String.ofList
        (Base64.encodeOpen Base64.standard (Digest.sha256.hash encoding))) ∧
      Der.IsSubjectPublicKeyInfo borderKey.n borderKey.e encoding ∧
      ∀ extra, Der.readSubjectPublicKeyInfo? (encoding ++ extra) =
        some (borderKey.n, borderKey.e) → extra = [] := by
  intro c
  obtain ⟨⟨encoding, -, hsignature, hread, honly⟩, hrules⟩ := hashed_encoding_unique (c := c) rfl
    (by decide +kernel) (by decide +kernel)
  refine ⟨encoding, hsignature, (hrules _ _ _).1 hread, ?_⟩
  intro extra hextra
  exact List.append_right_eq_self.1 (honly _ hextra)

end PayloadCipher.Cipher
