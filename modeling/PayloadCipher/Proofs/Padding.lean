import PayloadCipher.Oaep
import PayloadCipher.Proofs.Octets

/-! Padding and its removal, for any digest. The two masks undo each other although each depends on
what the other one hides, so a padded message gives back the message and its seed; what is removed
without complaint was padded with exactly one seed. -/

namespace PayloadCipher.Oaep

variable {h : Digest} {k : Nat} {seed seed' m m' em : Bytes}

@[simp] theorem length_mask (seed : Bytes) (len : Nat) : (mask h seed len).length = len := by
  have hblocks : ((List.range ((len + h.size - 1) / h.size)).flatMap fun i =>
      h.hash (seed ++ Bytes.ofNat 4 i)).length = (len + h.size - 1) / h.size * h.size := by
    simp only [List.length_flatMap, Digest.length_hash, List.map_const', List.length_range,
      List.sum_replicate_nat]
  have hpos := h.size_pos
  have hdiv := Nat.div_add_mod (len + h.size - 1) h.size
  have hmod := Nat.mod_lt (len + h.size - 1) hpos
  rw [Nat.mul_comm] at hdiv
  rw [mask, List.length_take, hblocks, Nat.min_eq_left (by omega)]

/-- Seed and block as they are sent: the block under the mask of the seed, and the seed under the
mask of what came out of that. -/
def maskBoth (h : Digest) (seed block : Bytes) : Bytes × Bytes :=
  let maskedBlock := Bytes.xor block (mask h seed block.length)
  (Bytes.xor seed (mask h maskedBlock h.size), maskedBlock)

def unmaskBoth (h : Digest) (maskedSeed maskedBlock : Bytes) : Bytes × Bytes :=
  let seed := Bytes.xor maskedSeed (mask h maskedBlock h.size)
  (seed, Bytes.xor maskedBlock (mask h seed maskedBlock.length))

theorem length_maskBoth (hs : seed.length = h.size) (block : Bytes) :
    (maskBoth h seed block).1.length = h.size ∧
      (maskBoth h seed block).2.length = block.length := by
  simp [maskBoth, hs]

theorem length_unmaskBoth (hs : seed.length = h.size) (block : Bytes) :
    (unmaskBoth h seed block).1.length = h.size ∧
      (unmaskBoth h seed block).2.length = block.length := by
  simp [unmaskBoth, hs]

theorem xor_mask_xor_mask {b : Bytes} {len : Nat} (hb : b.length = len) (s : Bytes) :
    Bytes.xor (Bytes.xor b (mask h s len)) (mask h s len) = b :=
  Bytes.xor_xor_cancel (by rw [length_mask, hb])

theorem unmaskBoth_maskBoth (hs : seed.length = h.size) (block : Bytes) :
    unmaskBoth h (maskBoth h seed block).1 (maskBoth h seed block).2 = (seed, block) := by
  -- the seed is under the mask of the masked block, so it comes out first, and the block by it
  have hseed (b : Bytes) : Bytes.xor (Bytes.xor seed (mask h b h.size)) (mask h b h.size) = seed :=
    xor_mask_xor_mask hs b
  have hblock : Bytes.xor (Bytes.xor block (mask h seed block.length))
      (mask h seed block.length) = block := xor_mask_xor_mask rfl seed
  simp [maskBoth, unmaskBoth, hseed, hblock]

theorem maskBoth_unmaskBoth (hs : seed.length = h.size) (block : Bytes) :
    maskBoth h (unmaskBoth h seed block).1 (unmaskBoth h seed block).2 = (seed, block) := by
  have hblock (s : Bytes) : Bytes.xor (Bytes.xor block (mask h s block.length))
      (mask h s block.length) = block := xor_mask_xor_mask rfl s
  have hseed : Bytes.xor (Bytes.xor seed (mask h block h.size)) (mask h block h.size) = seed :=
    xor_mask_xor_mask hs block
  simp [maskBoth, unmaskBoth, hseed, hblock]

theorem length_dataBlock (fits : m.length + overhead h ≤ k) :
    (dataBlock h k m).length = k - h.size - 1 := by
  simp only [overhead] at fits
  simp only [dataBlock, overhead, List.length_append, List.length_replicate, List.length_cons,
    Digest.length_hash]
  omega

theorem afterSeparator_zeros (z : Nat) (m : Bytes) :
    afterSeparator (List.replicate z 0 ++ 1 :: m) = some m := by
  induction z with
  | zero => simp [afterSeparator]
  | succ z ih => simpa [List.replicate_succ, afterSeparator] using ih

theorem eq_zeros_of_afterSeparator {b : Bytes} (hb : afterSeparator b = some m) :
    ∃ z, b = List.replicate z 0 ++ 1 :: m := by
  induction b with
  | nil => simp [afterSeparator] at hb
  | cons x b ih =>
    by_cases h0 : x = 0
    · rw [afterSeparator, if_pos h0] at hb
      obtain ⟨z, rfl⟩ := ih hb
      exact ⟨z + 1, by simp [List.replicate_succ, h0]⟩
    · by_cases h1 : x = 1
      · rw [afterSeparator, if_neg h0, if_pos h1] at hb
        exact ⟨0, by simp [h1, Option.some.inj hb]⟩
      · simp [afterSeparator, h0, h1] at hb

theorem afterSeparator_eq_some_iff {b : Bytes} :
    afterSeparator b = some m ↔ ∃ z, b = List.replicate z 0 ++ 1 :: m := by
  constructor
  · exact eq_zeros_of_afterSeparator
  · rintro ⟨z, rfl⟩
    exact afterSeparator_zeros z m

theorem encode_eq_some_iff : encode h k seed m = some em ↔
    m.length + overhead h ≤ k ∧
      em = 0 :: ((maskBoth h seed (dataBlock h k m)).1 ++
        (maskBoth h seed (dataBlock h k m)).2) := by
  by_cases fits : m.length + overhead h ≤ k
  · simp [encode, maskBoth, fits, eq_comm]
  · simp [encode, fits]

theorem decode_cons_eq_some_iff {lead : UInt8} {rest : Bytes} :
    decode h (lead :: rest) = some m ↔
      lead = 0 ∧ overhead h ≤ rest.length + 1 ∧
        (unmaskBoth h (rest.take h.size) (rest.drop h.size)).2.take h.size = h.hash [] ∧
        afterSeparator
          ((unmaskBoth h (rest.take h.size) (rest.drop h.size)).2.drop h.size) = some m := by
  simp only [decode]
  split
  · next hc => exact ⟨fun hsep => ⟨hc.1, hc.2.1, hc.2.2, hsep⟩, fun hall => hall.2.2.2⟩
  · next hc =>
    constructor
    · intro hsep
      cases hsep
    · intro hall
      exact absurd ⟨hall.1, hall.2.1, hall.2.2.1⟩ hc

theorem length_encode (hs : seed.length = h.size) (he : encode h k seed m = some em) :
    em.length = k := by
  obtain ⟨fits, rfl⟩ := encode_eq_some_iff.1 he
  obtain ⟨h1, h2⟩ := length_maskBoth hs (dataBlock h k m)
  rw [length_dataBlock fits] at h2
  simp only [overhead] at fits
  rw [List.length_cons, List.length_append, h1, h2]
  omega

theorem decode_encode (hs : seed.length = h.size) (he : encode h k seed m = some em) :
    decode h em = some m := by
  have hlen := length_encode hs he
  obtain ⟨fits, rfl⟩ := encode_eq_some_iff.1 he
  have h1 := (length_maskBoth hs (dataBlock h k m)).1
  rw [decode_cons_eq_some_iff, ← h1, List.take_left, List.drop_left, h1, unmaskBoth_maskBoth hs]
  have htake : (dataBlock h k m).take h.size = h.hash [] := by
    rw [dataBlock, List.append_assoc]
    exact List.take_left' (h.length_hash [])
  have hdrop : (dataBlock h k m).drop h.size =
      List.replicate (k - m.length - overhead h) 0 ++ 1 :: m := by
    rw [dataBlock, List.append_assoc]
    exact List.drop_left' (h.length_hash [])
  rw [List.length_cons] at hlen
  exact ⟨rfl, by omega, htake, hdrop ▸ afterSeparator_zeros _ m⟩

/-- Nothing but padded messages is decoded. -/
theorem exists_encode_of_decode (hd : decode h em = some m) :
    ∃ seed, seed.length = h.size ∧ encode h em.length seed m = some em := by
  cases em with
  | nil => simp [decode] at hd
  | cons lead rest =>
    obtain ⟨rfl, hover, htake, hsep⟩ := decode_cons_eq_some_iff.1 hd
    obtain ⟨z, hz⟩ := eq_zeros_of_afterSeparator hsep
    simp only [overhead] at hover
    have hs : (rest.take h.size).length = h.size := by
      rw [List.length_take]
      omega
    obtain ⟨hseed, hlen⟩ := length_unmaskBoth hs (rest.drop h.size)
    have hinv := maskBoth_unmaskBoth hs (rest.drop h.size)
    generalize unmaskBoth h (rest.take h.size) (rest.drop h.size) = opened at *
    have hblock : opened.2 = h.hash [] ++ (List.replicate z 0 ++ 1 :: m) := by
      rw [← htake, ← hz, List.take_append_drop]
    -- the length of the block leaves only one length for the run of zeros
    have hcount : z + m.length + overhead h = rest.length + 1 := by
      rw [hblock] at hlen
      simp only [List.length_append, List.length_replicate, List.length_cons, List.length_drop,
        Digest.length_hash] at hlen
      simp only [overhead]
      omega
    have hdata : dataBlock h (rest.length + 1) m = opened.2 := by
      rw [hblock, dataBlock, ← List.append_assoc,
        show rest.length + 1 - m.length - overhead h = z by omega]
    refine ⟨opened.1, hseed, encode_eq_some_iff.2 ⟨by rw [List.length_cons]; omega, ?_⟩⟩
    rw [List.length_cons, hdata, hinv, List.take_append_drop]

theorem encode_injective (hs : seed.length = h.size) (hs' : seed'.length = h.size)
    (he : encode h k seed m = some em) (he' : encode h k seed' m' = some em) :
    seed = seed' ∧ m = m' := by
  have hm : m = m' := Option.some.inj ((decode_encode hs he).symm.trans (decode_encode hs' he'))
  subst hm
  obtain ⟨fits, rfl⟩ := encode_eq_some_iff.1 he
  obtain ⟨-, heq⟩ := encode_eq_some_iff.1 he'
  obtain ⟨h1, -⟩ := length_maskBoth hs (dataBlock h k m)
  obtain ⟨h1', -⟩ := length_maskBoth hs' (dataBlock h k m)
  obtain ⟨hfst, hsnd⟩ := List.append_inj (List.cons.inj heq).2 (h1.trans h1'.symm)
  have hopen := unmaskBoth_maskBoth hs (dataBlock h k m)
  rw [hfst, hsnd, unmaskBoth_maskBoth hs'] at hopen
  exact ⟨(Prod.mk.inj hopen).1.symm, rfl⟩

end PayloadCipher.Oaep
