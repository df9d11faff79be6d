import Mathlib.Data.List.GetD
import Mathlib.Data.List.Nodup
import PayloadCipher.Base64

/-! Octets written in base 64 are read back, in any alphabet of sixty-four distinct symbols that
lacks the closing sign. The closing signs can be told from the length, so nothing is lost when they
are left out. -/

namespace PayloadCipher.Base64

/-- Every value has a symbol of its own, and none of them closes a group. -/
structure Alphabet.Proper (alphabet : Alphabet) : Prop where
  length_symbols : alphabet.symbols.length = 64
  nodup : alphabet.symbols.Nodup
  sign_not_mem : '=' ∉ alphabet.symbols

theorem standard_proper : standard.Proper where
  length_symbols := by decide +kernel
  nodup := by decide +kernel
  sign_not_mem := by decide +kernel

theorem Alphabet.symbol_eq {alphabet : Alphabet} {v : Nat} (hv : v < alphabet.symbols.length) :
    alphabet.symbol v = alphabet.symbols[v] := by
  rw [symbol, List.getD_eq_getElem]

namespace Alphabet.Proper

variable {alphabet : Alphabet} (proper : alphabet.Proper)
include proper

theorem symbol_mem {v : Nat} (hv : v < 64) : alphabet.symbol v ∈ alphabet.symbols := by
  have hlen : v < alphabet.symbols.length := by rwa [proper.length_symbols]
  rw [symbol_eq hlen]
  exact List.getElem_mem hlen

theorem symbol_ne_sign {v : Nat} (hv : v < 64) : alphabet.symbol v ≠ '=' :=
  fun h => proper.sign_not_mem (h ▸ proper.symbol_mem hv)

theorem value?_symbol {v : Nat} (hv : v < 64) : alphabet.value? (alphabet.symbol v) = some v := by
  have hlen : v < alphabet.symbols.length := by rwa [proper.length_symbols]
  rw [value?, symbol_eq hlen, List.idxOf?_eq_some_iff]
  refine ⟨hlen, rfl, ?_⟩
  intro j hj heq
  have := (List.getElem_inj proper.nodup).1 heq
  omega

theorem value?_sign : alphabet.value? '=' = none := by
  rw [value?, List.idxOf?_eq_none_iff]
  exact proper.sign_not_mem

end Alphabet.Proper

variable {alphabet : Alphabet}

def closing (len : Nat) : List Char := List.replicate ((3 - len % 3) % 3) '='

def sextets : Bytes → List Nat
  | [] => []
  | [x] => [x.toNat / 4, x.toNat % 4 * 16]
  | [x, y] => [x.toNat / 4, x.toNat % 4 * 16 + y.toNat / 16, y.toNat % 16 * 4]
  | x :: y :: z :: rest =>
    x.toNat / 4 :: (x.toNat % 4 * 16 + y.toNat / 16) :: (y.toNat % 16 * 4 + z.toNat / 64) ::
      z.toNat % 64 :: sextets rest

theorem length_sextets (b : Bytes) : (sextets b).length = (4 * b.length + 2) / 3 := by
  fun_induction sextets b with
  | case1 => rfl
  | case2 x => simp
  | case3 x y => simp
  | case4 x y z rest ih =>
    simp only [List.length_cons, ih]
    omega

theorem sextets_lt (b : Bytes) : ∀ v ∈ sextets b, v < 64 := by
  fun_induction sextets b with
  | case1 => simp
  | case2 x =>
    have hx := x.toNat_lt
    simp only [List.forall_mem_cons]
    exact ⟨by omega, by omega, by simp⟩
  | case3 x y =>
    have hx := x.toNat_lt
    have hy := y.toNat_lt
    simp only [List.forall_mem_cons]
    exact ⟨by omega, by omega, by omega, by simp⟩
  | case4 x y z rest ih =>
    have hx := x.toNat_lt
    have hy := y.toNat_lt
    have hz := z.toNat_lt
    simp only [List.forall_mem_cons]
    exact ⟨by omega, by omega, by omega, by omega, ih⟩

theorem encode_eq (b : Bytes) :
    encode alphabet b = (sextets b).map alphabet.symbol ++ closing b.length := by
  fun_induction encode alphabet b with
  | case1 => rfl
  | case2 x => rfl
  | case3 x y => rfl
  | case4 x y z rest ih =>
    have hclosing : closing (rest.length + 1 + 1 + 1) = closing rest.length := by
      rw [closing, closing, show (rest.length + 1 + 1 + 1) % 3 = rest.length % 3 by omega]
    simp [sextets, hclosing, ih]

section Proper

variable (proper : alphabet.Proper)
include proper

theorem encodeOpen_eq (b : Bytes) : encodeOpen alphabet b = (sextets b).map alphabet.symbol := by
  have hsymbols : ((sextets b).map alphabet.symbol).filter (· ≠ '=') =
      (sextets b).map alphabet.symbol := by
    rw [List.filter_eq_self]
    intro c hc
    obtain ⟨v, hv, rfl⟩ := List.mem_map.1 hc
    simpa using proper.symbol_ne_sign (sextets_lt b v hv)
  have hclosing : (closing b.length).filter (· ≠ '=') = [] := by simp [closing]
  rw [encodeOpen, encode_eq, List.filter_append, hsymbols, hclosing, List.append_nil]

theorem mem_symbols_of_mem_encodeOpen {b : Bytes} {c : Char} (hc : c ∈ encodeOpen alphabet b) :
    c ∈ alphabet.symbols := by
  rw [encodeOpen_eq proper] at hc
  obtain ⟨v, hv, rfl⟩ := List.mem_map.1 hc
  exact proper.symbol_mem (sextets_lt b v hv)

theorem decode?_encode (b : Bytes) : decode? alphabet (encode alphabet b) = some b := by
  -- the cases are those of the length modulo three; in each the groups are put together again
  have hread (v : Nat) (hv : v < 64) := proper.value?_symbol hv
  have heq {n : Nat} {x : UInt8} (h : n = x.toNat) : UInt8.ofNat n = x := by
    rw [h, UInt8.ofNat_toNat]
  fun_induction encode alphabet b with
  | case1 => rfl
  | case2 x =>
    have hx := x.toNat_lt
    rw [decode?, hread _ (by omega), hread _ (by omega), proper.value?_sign]
    simp only [true_and]
    rw [if_pos (by omega), heq (x := x) (by omega)]
  | case3 x y =>
    have hx := x.toNat_lt
    have hy := y.toNat_lt
    rw [decode?, hread _ (by omega), hread _ (by omega), hread _ (by omega), proper.value?_sign]
    simp only [true_and]
    rw [if_pos (by omega), heq (x := x) (by omega), heq (x := y) (by omega)]
  | case4 x y z rest ih =>
    have hx := x.toNat_lt
    have hy := y.toNat_lt
    have hz := z.toNat_lt
    rw [decode?, hread _ (by omega), hread _ (by omega), hread _ (by omega), hread _ (by omega)]
    simp only [ih, Option.map_some]
    rw [heq (x := x) (by omega), heq (x := y) (by omega), heq (x := z) (by omega)]

/-- Octets are read back from their symbols, once the closing signs are put back. -/
theorem decode?_encodeOpen (b : Bytes) :
    decode? alphabet (encodeOpen alphabet b ++ closing b.length) = some b := by
  rw [encodeOpen_eq proper, ← encode_eq, decode?_encode proper]

end Proper

end PayloadCipher.Base64
