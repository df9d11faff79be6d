import PayloadCipher.Der
import PayloadCipher.Proofs.Octets

/-! The encoding of a public key reads back as its numbers, and nothing else does. Each layer is read
back with whatever follows it, so that layers nest: lengths, elements, integers, and the two elements
around the integers. What a layer is read from is what was written for it, because its form is
minimal. A length has at most 126 octets, far more than any key takes. -/

namespace PayloadCipher.Der

def lengthBound : Nat := 256 ^ 126

theorem two_pow_le_lengthBound : 2 ^ 64 ≤ lengthBound := by decide +kernel

theorem width_le_of_lt_lengthBound {n : Nat} (hn : n < lengthBound) : Bytes.width n ≤ 126 :=
  (Bytes.width_le_iff n 126).2 hn

theorem length_lengthOctets_le (n : Nat) : (lengthOctets n).length ≤ n + 1 := by
  have hwidth : Bytes.width n ≤ n := (Bytes.width_le_iff n n).2 (Nat.lt_pow_self (by decide))
  unfold lengthOctets
  split
  · simp
  · rw [List.length_cons, Bytes.length_ofNat]
    omega

theorem length_element_le (tag : UInt8) (content : Bytes) :
    (element tag content).length ≤ 2 * content.length + 2 := by
  have := length_lengthOctets_le content.length
  rw [element, List.length_cons, List.length_append]
  omega

theorem length_le_length_element (tag : UInt8) (content : Bytes) :
    content.length ≤ (element tag content).length := by
  rw [element, List.length_cons, List.length_append]
  omega

theorem readLength?_lengthOctets {n : Nat} (hn : n < lengthBound) (rest : Bytes) :
    readLength? (lengthOctets n ++ rest) = some (n, rest) := by
  have hwidth := width_le_of_lt_lengthBound hn
  by_cases hshort : n < 128
  · have hx : (UInt8.ofNat n).toNat = n := by
      rw [UInt8.toNat_ofNat']
      omega
    simp [lengthOctets, readLength?, hshort, hx]
  · have hx : (UInt8.ofNat (128 + Bytes.width n)).toNat = 128 + Bytes.width n := by
      rw [UInt8.toNat_ofNat']
      omega
    have htake : (Bytes.ofNat (Bytes.width n) n ++ rest).take (Bytes.width n) =
        Bytes.ofNat (Bytes.width n) n := List.take_left' (Bytes.length_ofNat _ _)
    have hdrop : (Bytes.ofNat (Bytes.width n) n ++ rest).drop (Bytes.width n) = rest :=
      List.drop_left' (Bytes.length_ofNat _ _)
    rw [lengthOctets, if_neg hshort, List.cons_append, readLength?, hx, if_neg (by omega),
      Nat.add_sub_cancel_left]
    simp only [htake, hdrop, Bytes.toNat_ofNat_width]
    rw [if_pos ⟨by omega, by simp, by omega, trivial⟩]

theorem eq_of_readLength? {b rest : Bytes} {n : Nat} (h : readLength? b = some (n, rest)) :
    n < lengthBound ∧ b = lengthOctets n ++ rest := by
  cases b with
  | nil => cases h
  | cons x tail =>
    rw [readLength?] at h
    split at h
    case isTrue hshort =>
      cases h
      have hbound : 128 ≤ lengthBound := by decide +kernel
      refine ⟨by omega, ?_⟩
      rw [lengthOctets, if_pos hshort, UInt8.ofNat_toNat]
      rfl
    case isFalse hlong =>
      dsimp only at h
      split at h
      case isTrue hminimal =>
        obtain ⟨hfree, hcount, hlarge, hwidth⟩ := hminimal
        rw [Option.some.injEq, Prod.mk.injEq] at h
        have hoctets : Bytes.ofNat (x.toNat - 128) (Bytes.toNat (tail.take (x.toNat - 128))) =
            tail.take (x.toNat - 128) := by
          have hround := Bytes.ofNat_toNat (tail.take (x.toNat - 128))
          rwa [List.length_take, Nat.min_eq_left hcount] at hround
        have hfirst : UInt8.ofNat (128 + (x.toNat - 128)) = x := by
          rw [Nat.add_sub_cancel' (Nat.not_lt.1 hlong), UInt8.ofNat_toNat]
        rw [← h.1, ← h.2]
        refine ⟨(Bytes.width_le_iff _ 126).1 (by omega), ?_⟩
        rw [lengthOctets, if_neg (by omega), hwidth, hoctets, hfirst, List.cons_append,
          List.take_append_drop]
      case isFalse => cases h

theorem readElement?_element {tag : UInt8} {content : Bytes} (hc : content.length < lengthBound)
    (rest : Bytes) : readElement? tag (element tag content ++ rest) = some (content, rest) := by
  rw [element, List.cons_append, List.append_assoc, readElement?, if_pos rfl,
    readLength?_lengthOctets hc]
  simp only [List.length_append, Nat.le_add_right, if_true, List.take_left, List.drop_left]

theorem eq_of_readElement? {tag : UInt8} {b content rest : Bytes}
    (h : readElement? tag b = some (content, rest)) :
    content.length < lengthBound ∧ b = element tag content ++ rest := by
  cases b with
  | nil => cases h
  | cons x tail =>
    rw [readElement?] at h
    split at h
    case isTrue htag =>
      cases hlength : readLength? tail with
      | none =>
        rw [hlength] at h
        cases h
      | some length =>
        obtain ⟨n, after⟩ := length
        obtain ⟨hbound, htail⟩ := eq_of_readLength? hlength
        rw [hlength] at h
        dsimp only at h
        split at h
        case isTrue hfits =>
          cases h
          have hn : (after.take n).length = n := by
            rw [List.length_take, Nat.min_eq_left hfits]
          refine ⟨hn.symm ▸ hbound, ?_⟩
          rw [element, hn, htail, htag, List.cons_append, List.append_assoc,
            List.take_append_drop]
        case isFalse => cases h
    case isFalse => cases h

theorem readOnly?_element {tag : UInt8} {content : Bytes} (hc : content.length < lengthBound) :
    readOnly? tag (element tag content) = some content := by
  have hread : readElement? tag (element tag content ++ []) = some (content, []) :=
    readElement?_element hc []
  rw [List.append_nil] at hread
  rw [readOnly?, hread]

theorem eq_of_readOnly? {tag : UInt8} {b content : Bytes} (h : readOnly? tag b = some content) :
    content.length < lengthBound ∧ b = element tag content := by
  unfold readOnly? at h
  split at h
  case h_1 content hread =>
    cases h
    obtain ⟨hbound, hb⟩ := eq_of_readElement? hread
    exact ⟨hbound, by rw [hb, List.append_nil]⟩
  case h_2 => cases h

theorem toNat_integerContent (n : Nat) : Bytes.toNat (integerContent n) = n := by
  apply Bytes.toNat_ofNat_of_lt
  rw [← Bytes.width_le_iff, Bytes.width]
  omega

theorem length_integerContent_le (n : Nat) : (integerContent n).length ≤ Bytes.width n + 1 := by
  rw [integerContent, Bytes.length_ofNat, Bytes.width]
  omega

theorem readInteger?_integer {n : Nat} (hn : (integerContent n).length < lengthBound)
    (rest : Bytes) : readInteger? (integer n ++ rest) = some (n, rest) := by
  rw [readInteger?, integer, readElement?_element hn]
  simp [toNat_integerContent]

theorem eq_of_readInteger? {b rest : Bytes} {n : Nat} (h : readInteger? b = some (n, rest)) :
    b = integer n ++ rest := by
  unfold readInteger? at h
  split at h
  case h_1 => cases h
  case h_2 content after hread =>
    dsimp only at h
    split at h
    case isTrue hminimal =>
      cases h
      rw [(eq_of_readElement? hread).2, integer, hminimal]
    case isFalse => cases h

def keyInfoBody (n e : Nat) : Bytes :=
  algorithmIdentifier ++ element bitStringTag (0 :: element sequenceTag (integer n ++ integer e))

section Layers

variable {n e : Nat} (h : (keyInfoBody n e).length < lengthBound)
include h

/-- If the whole has a length that can be told, so has every layer of it. -/
theorem layers_lt : (0 :: element sequenceTag (integer n ++ integer e)).length < lengthBound ∧
    (integer n ++ integer e).length < lengthBound ∧ (integerContent n).length < lengthBound ∧
      (integerContent e).length < lengthBound := by
  have hbits := length_le_length_element bitStringTag
    (0 :: element sequenceTag (integer n ++ integer e))
  have hnumbers := length_le_length_element sequenceTag (integer n ++ integer e)
  have hmodulus : (integerContent n).length ≤ (integer n).length := length_le_length_element _ _
  have hexponent : (integerContent e).length ≤ (integer e).length := length_le_length_element _ _
  rw [keyInfoBody, List.length_append] at h
  rw [List.length_cons] at hbits ⊢
  rw [List.length_append] at hnumbers ⊢
  omega

theorem readKeyNumbers?_integers : readKeyNumbers? (integer n ++ integer e) = some (n, e) := by
  obtain ⟨-, -, hn, he⟩ := layers_lt h
  have hfirst := readInteger?_integer hn (integer e)
  have hsecond := readInteger?_integer he []
  rw [List.append_nil] at hsecond
  simp [readKeyNumbers?, hfirst, hsecond]

theorem readSubjectPublicKeyInfo?_of_lt :
    readSubjectPublicKeyInfo? (subjectPublicKeyInfo n e) = some (n, e) := by
  obtain ⟨hbits, hnumbers, -, -⟩ := layers_lt h
  -- the layers are read from the outside in
  have hbody : readOnly? sequenceTag (subjectPublicKeyInfo n e) = some (algorithmIdentifier ++
      element bitStringTag (0 :: element sequenceTag (integer n ++ integer e))) :=
    readOnly?_element h
  have halgorithm (rest : Bytes) : readElement? sequenceTag (algorithmIdentifier ++ rest) =
      some (element objectTag rsaEncryption ++ element nullTag [], rest) :=
    readElement?_element (by decide +kernel) rest
  have hobject : readElement? objectTag (element objectTag rsaEncryption ++ element nullTag []) =
      some (rsaEncryption, element nullTag []) := readElement?_element (by decide +kernel) _
  have hnull : readOnly? nullTag (element nullTag []) = some [] :=
    readOnly?_element (by decide +kernel)
  have hstring : readOnly? bitStringTag
      (element bitStringTag (0 :: element sequenceTag (integer n ++ integer e))) =
        some (0 :: element sequenceTag (integer n ++ integer e)) := readOnly?_element hbits
  have hinner : readOnly? sequenceTag (element sequenceTag (integer n ++ integer e)) =
      some (integer n ++ integer e) := readOnly?_element hnumbers
  simp [readSubjectPublicKeyInfo?, hbody, halgorithm, hobject, hnull, hstring, hinner,
    readKeyNumbers?_integers h]

end Layers

theorem eq_of_readKeyNumbers? {b : Bytes} {n e : Nat} (h : readKeyNumbers? b = some (n, e)) :
    b = integer n ++ integer e := by
  simp only [readKeyNumbers?, Option.bind_eq_bind, Option.bind_eq_some_iff, Prod.exists,
    Option.ite_none_right_eq_some, Option.some.injEq, Prod.mk.injEq] at h
  obtain ⟨modulus, after, hmodulus, exponent, rest, hexponent, hend, hn, he⟩ := h
  rw [eq_of_readInteger? hmodulus, eq_of_readInteger? hexponent, hend, hn, he, List.append_nil]

theorem eq_of_readSubjectPublicKeyInfo? {b : Bytes} {n e : Nat}
    (h : readSubjectPublicKeyInfo? b = some (n, e)) :
    (keyInfoBody n e).length < lengthBound ∧ b = subjectPublicKeyInfo n e := by
  simp only [readSubjectPublicKeyInfo?, Option.bind_eq_bind, Option.bind_eq_some_iff,
    Prod.exists] at h
  obtain ⟨body, hbody, algorithm, rest, halgorithm, object, parameters, hobject, null, hnull, bits,
    hbits, hkey⟩ := h
  split at hkey
  case h_1 key =>
    split at hkey
    case isTrue hidentifier =>
      obtain ⟨numbers, hnumbers, hread⟩ := Option.bind_eq_some_iff.1 hkey
      have hwhole : body = keyInfoBody n e := by
        rw [(eq_of_readElement? halgorithm).2, (eq_of_readElement? hobject).2,
          (eq_of_readOnly? hnull).2, (eq_of_readOnly? hbits).2, (eq_of_readOnly? hnumbers).2,
          eq_of_readKeyNumbers? hread, hidentifier.1, hidentifier.2]
        rfl
      rw [← hwhole, (eq_of_readOnly? hbody).2, hwhole]
      exact ⟨hwhole ▸ (eq_of_readOnly? hbody).1, rfl⟩
    case isFalse => cases hkey
  case h_2 => cases hkey

/-- The reader takes what the writer gives, and nothing else. -/
theorem readSubjectPublicKeyInfo?_eq_some_iff {b : Bytes} {n e : Nat} :
    readSubjectPublicKeyInfo? b = some (n, e) ↔
      (keyInfoBody n e).length < lengthBound ∧ b = subjectPublicKeyInfo n e := by
  constructor
  · exact eq_of_readSubjectPublicKeyInfo?
  · intro h
    rw [h.2, readSubjectPublicKeyInfo?_of_lt h.1]

section Numbers

variable {n e : Nat} (hn : Bytes.width n < 2 ^ 56) (he : Bytes.width e < 2 ^ 56)
include hn he

theorem length_keyInfoBody_lt : (keyInfoBody n e).length < lengthBound := by
  have hbound := two_pow_le_lengthBound
  have hcn := length_integerContent_le n
  have hce := length_integerContent_le e
  have hin : (integer n).length ≤ 2 * (integerContent n).length + 2 := length_element_le _ _
  have hie : (integer e).length ≤ 2 * (integerContent e).length + 2 := length_element_le _ _
  have hkey := length_element_le sequenceTag (integer n ++ integer e)
  have hbits := length_element_le bitStringTag (0 :: element sequenceTag (integer n ++ integer e))
  have halgorithm : algorithmIdentifier.length = 15 := by decide
  rw [List.length_append] at hkey
  rw [List.length_cons] at hbits
  rw [keyInfoBody, List.length_append, halgorithm]
  omega

theorem readSubjectPublicKeyInfo?_subjectPublicKeyInfo :
    readSubjectPublicKeyInfo? (subjectPublicKeyInfo n e) = some (n, e) :=
  readSubjectPublicKeyInfo?_of_lt (length_keyInfoBody_lt hn he)

end Numbers

theorem subjectPublicKeyInfo_injective {n e n' e' : Nat} (hn : Bytes.width n < 2 ^ 56)
    (he : Bytes.width e < 2 ^ 56) (hn' : Bytes.width n' < 2 ^ 56) (he' : Bytes.width e' < 2 ^ 56)
    (h : subjectPublicKeyInfo n e = subjectPublicKeyInfo n' e') : n = n' ∧ e = e' := by
  have hread := readSubjectPublicKeyInfo?_subjectPublicKeyInfo hn he
  rw [h, readSubjectPublicKeyInfo?_subjectPublicKeyInfo hn' he'] at hread
  simpa [eq_comm] using hread

end PayloadCipher.Der
