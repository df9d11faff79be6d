import Mathlib.Data.List.Induction
import Mathlib.Tactic.Ring
import PayloadCipher.Bytes

/-! Octet strings and numbers determine each other. A number written in octets reads back as its
remainder by the power of 256, an octet string is what its length and its number make it, and the
width of a number is the least length that has room for it. -/

namespace PayloadCipher.Bytes

theorem ofNat_succ (len n : Nat) :
    ofNat (len + 1) n = ofNat len (n / 256) ++ [UInt8.ofNat n] := by
  simp [ofNat, lowOctets]

theorem toNat_ofNat (len n : Nat) : toNat (ofNat len n) = n % 256 ^ len := by
  induction len generalizing n with
  | zero => simp [ofNat, lowOctets, Nat.mod_one]
  | succ len ih =>
    rw [ofNat_succ, toNat_append_singleton, ih, Nat.pow_succ, Nat.mul_comm (256 ^ len) 256,
      Nat.mod_mul, UInt8.toNat_ofNat']
    omega

theorem toNat_ofNat_of_lt {len n : Nat} (h : n < 256 ^ len) : toNat (ofNat len n) = n := by
  rw [toNat_ofNat, Nat.mod_eq_of_lt h]

theorem toNat_lt (b : Bytes) : toNat b < 256 ^ b.length := by
  induction b using List.reverseRecOn with
  | nil => simp
  | append_singleton b x ih =>
    have hx := x.toNat_lt
    rw [toNat_append_singleton, List.length_append, List.length_singleton, Nat.pow_succ]
    omega

/-- An octet string is determined by its length and its number. -/
theorem ofNat_toNat (b : Bytes) : ofNat b.length (toNat b) = b := by
  induction b using List.reverseRecOn with
  | nil => rfl
  | append_singleton b x ih =>
    have hx := x.toNat_lt
    have hq : (toNat b * 256 + x.toNat) / 256 = toNat b := by omega
    have hr : UInt8.ofNat (toNat b * 256 + x.toNat) = x := by
      apply UInt8.toNat_inj.1
      rw [UInt8.toNat_ofNat']
      omega
    rw [List.length_append, List.length_singleton, ofNat_succ, toNat_append_singleton, hq, hr, ih]

theorem toNat_cons (x : UInt8) (b : Bytes) :
    toNat (x :: b) = x.toNat * 256 ^ b.length + toNat b := by
  induction b using List.reverseRecOn with
  | nil => simp [toNat]
  | append_singleton b y ih =>
    rw [← List.cons_append, toNat_append_singleton, ih, toNat_append_singleton,
      List.length_append, List.length_singleton, Nat.pow_succ]
    ring_nf

@[simp] theorem toNat_zero_cons (b : Bytes) : toNat (0 :: b) = toNat b := by
  rw [toNat_cons, UInt8.toNat_zero, Nat.zero_mul, Nat.zero_add]

theorem toNat_cons_lt_iff {x : UInt8} {b : Bytes} {m : Nat} :
    toNat (x :: b) < m * 256 ^ b.length ↔ x.toNat < m := by
  rw [toNat_cons]
  constructor
  · intro h
    exact Nat.lt_of_mul_lt_mul_right (Nat.lt_of_le_of_lt (Nat.le_add_right _ _) h)
  · intro h
    calc
      x.toNat * 256 ^ b.length + toNat b < x.toNat * 256 ^ b.length + 256 ^ b.length :=
        Nat.add_lt_add_left (toNat_lt b) _
      _ = (x.toNat + 1) * 256 ^ b.length := by ring
      _ ≤ m * 256 ^ b.length := Nat.mul_le_mul_right _ h

theorem eq_of_toNat_eq {a b : Bytes} (hlen : a.length = b.length) (h : toNat a = toNat b) :
    a = b := by
  rw [← ofNat_toNat a, ← ofNat_toNat b, hlen, h]

theorem bitLength_le_iff (n t : Nat) : bitLength n ≤ t ↔ n < 2 ^ t := by
  unfold bitLength
  by_cases hn : n = 0
  · simp [hn]
  · rw [if_neg hn, Nat.succ_le_iff, Nat.log2_lt hn]

theorem width_le_iff (n len : Nat) : width n ≤ len ↔ n < 256 ^ len := by
  have hp : 256 ^ len = 2 ^ (8 * len) := by rw [Nat.pow_mul]
  rw [hp, ← bitLength_le_iff, width]
  omega

theorem lt_pow_width (n : Nat) : n < 256 ^ width n := (width_le_iff n _).1 le_rfl

theorem pow_width_le {n : Nat} (h : 0 < width n) : 256 ^ (width n - 1) ≤ n := by
  by_contra hlt
  have := (width_le_iff n (width n - 1)).2 (by omega)
  omega

theorem width_eq {n k : Nat} (hlow : 256 ^ (k - 1) ≤ n) (hhigh : n < 256 ^ k) :
    width n = k := by
  have hle : width n ≤ k := (width_le_iff n k).2 hhigh
  have hlt : ¬ width n ≤ k - 1 := fun h => Nat.not_lt.2 hlow ((width_le_iff n (k - 1)).1 h)
  omega

theorem width_toNat_cons_iff {x : UInt8} {b : Bytes} :
    width (toNat (x :: b)) = b.length + 1 ↔ x ≠ 0 := by
  constructor
  · intro h hx
    have hle := (width_le_iff _ b.length).2 (toNat_lt b)
    rw [hx, toNat_zero_cons] at h
    omega
  · intro hx
    have hpos : ¬ x.toNat < 1 := fun h => hx (UInt8.toNat_inj.1 (Nat.lt_one_iff.1 h))
    apply width_eq
    · rwa [Nat.add_sub_cancel, ← Nat.not_lt, ← Nat.one_mul (256 ^ b.length), toNat_cons_lt_iff]
    · exact toNat_lt (x :: b)

theorem toNat_ofNat_width (n : Nat) : toNat (ofNat (width n) n) = n :=
  toNat_ofNat_of_lt (lt_pow_width n)

theorem xor_xor_cancel {a b : Bytes} (h : a.length ≤ b.length) : xor (xor a b) b = a := by
  induction a generalizing b with
  | nil => simp [xor]
  | cons x a ih =>
    cases b with
    | nil => simp at h
    | cons y b =>
      have hxy : x ^^^ y ^^^ y = x := by rw [UInt8.xor_assoc, UInt8.xor_self, UInt8.xor_zero]
      have := ih (b := b) (by simpa using h)
      simp only [xor] at this
      simp [xor, hxy, this]

end PayloadCipher.Bytes
