import Mathlib.Data.List.Basic
import PayloadCipher.Text.CaseMap

/-! Upper case is final: what comes out of it is left as it is by a second time. A character is
mapped by an expansion, by a run, or not at all; none of the characters that come out of the first
two ways goes in again, which is checked once over the tables. -/

namespace PayloadCipher.Text

/-- A set of code points as a number with one bit for each, so that its members need no search. -/
def codeSet (codes : List Nat) : Nat := codes.foldr (fun n set => set ||| 1 <<< n) 0

theorem testBit_codeSet {codes : List Nat} {n : Nat} (h : n ∈ codes) :
    (codeSet codes).testBit n = true := by
  induction codes with
  | nil => cases h
  | cons m rest ih =>
    have hcons : codeSet (m :: rest) = codeSet rest ||| 1 <<< m := rfl
    rw [hcons, Nat.testBit_or, Bool.or_eq_true]
    rcases List.mem_cons.1 h with rfl | hrest
    · right
      rw [Nat.one_shiftLeft, Nat.testBit_two_pow_self]
    · exact .inl (ih hrest)

namespace CaseRun

def codes (r : CaseRun) : List Nat :=
  (List.range ((r.last - r.first) / r.step + 1)).map fun k => r.first + k * r.step

def images (r : CaseRun) : List Nat := r.codes.map fun (n : Nat) => Int.toNat (n + r.shift)

theorem mem_codes {r : CaseRun} {c : Nat} (h : r.covers c = true) : c ∈ r.codes := by
  simp only [covers, Bool.and_eq_true, decide_eq_true_eq, beq_iff_eq] at h
  obtain ⟨⟨hfirst, hlast⟩, hstep⟩ := h
  have hc : r.first + (c - r.first) / r.step * r.step = c := by
    rw [Nat.div_mul_cancel (Nat.dvd_of_mod_eq_zero hstep)]
    omega
  have hk : (c - r.first) / r.step < (r.last - r.first) / r.step + 1 :=
    Nat.lt_succ_of_le (Nat.div_le_div_right (Nat.sub_le_sub_right hlast r.first))
  exact List.mem_map.2 ⟨_, List.mem_range.2 hk, hc⟩

theorem mem_images {r : CaseRun} {c : Nat} (h : r.covers c = true) :
    Int.toNat (c + r.shift) ∈ r.images :=
  List.mem_map.2 ⟨c, mem_codes h, rfl⟩

end CaseRun

def mappedCodes : List Nat := upperRuns.flatMap CaseRun.codes ++ upperExpansions.map (·.1)

def upperCodes : List Nat := upperRuns.flatMap CaseRun.images ++ upperExpansions.flatMap (·.2)

theorem upperCodes_final : ∀ n ∈ upperCodes, n.isValidChar ∧
    if n < 128 then (Char.ofNat n).toUpper = Char.ofNat n
    else (codeSet mappedCodes).testBit n = false := by
  decide +kernel

theorem mem_of_lookup_eq_some {table : List (Nat × List Nat)} {c : Nat} {codes : List Nat}
    (h : table.lookup c = some codes) : (c, codes) ∈ table := by
  obtain ⟨before, after, rfl, -⟩ := List.lookup_eq_some_iff.1 h
  exact List.mem_append_right _ List.mem_cons_self

theorem mapCode_eq_self {runs : List CaseRun} {expansions : List (Nat × List Nat)} {c : Nat}
    (hruns : ∀ r ∈ runs, r.covers c = false) (hexpansions : c ∉ expansions.map (·.1)) :
    mapCode runs expansions c = [Char.ofNat c] := by
  have hlookup : expansions.lookup c = none := by
    rw [List.lookup_eq_none_iff]
    intro e he
    rw [bne_iff_ne]
    rintro rfl
    exact hexpansions (List.mem_map_of_mem he)
  have hfind : runs.find? (·.covers c) = none := by
    rw [List.find?_eq_none]
    intro r hr
    rw [hruns r hr]
    exact Bool.false_ne_true
  rw [mapCode, hlookup]
  dsimp only
  rw [hfind]

theorem upperChar_of_mem_upperCodes {n : Nat} (h : n ∈ upperCodes) :
    upperChar (Char.ofNat n) = [Char.ofNat n] := by
  obtain ⟨hvalid, hfinal⟩ := upperCodes_final n h
  have hn : (Char.ofNat n).toNat = n := by
    rw [Char.ofNat, dif_pos hvalid]
    rfl
  rw [upperChar, hn]
  split at hfinal
  case isTrue hascii => rw [if_pos hascii, hfinal]
  case isFalse hascii =>
    have hmapped : n ∉ mappedCodes := fun hmem => by simp [testBit_codeSet hmem] at hfinal
    rw [mappedCodes, List.mem_append, not_or] at hmapped
    rw [if_neg hascii]
    refine mapCode_eq_self (fun r hr => ?_) hmapped.2
    rw [Bool.eq_false_iff]
    exact fun hcovers =>
      hmapped.1 (List.mem_flatMap.2 ⟨r, hr, CaseRun.mem_codes hcovers⟩)

theorem toUpper_toUpper : ∀ n < 128, (Char.ofNat n).toUpper.toNat < 128 ∧
    (Char.ofNat n).toUpper.toUpper = (Char.ofNat n).toUpper := by
  decide +kernel

theorem upperChar_of_mem_upperChar {c d : Char} (h : d ∈ upperChar c) : upperChar d = [d] := by
  by_cases hascii : c.toNat < 128
  · obtain ⟨hlt, htwice⟩ := toUpper_toUpper c.toNat hascii
    rw [Char.ofNat_toNat] at hlt htwice
    rw [upperChar, if_pos hascii, List.mem_singleton] at h
    rw [h, upperChar, if_pos hlt, htwice]
  · have hmap : upperChar c = mapCode upperRuns upperExpansions c.toNat := by
      rw [upperChar, if_neg hascii]
    rw [hmap, mapCode] at h
    split at h
    case h_1 codes hcodes =>
      obtain ⟨n, hn, rfl⟩ := List.mem_map.1 h
      have hmem : n ∈ upperExpansions.flatMap (·.2) :=
        List.mem_flatMap.2 ⟨_, mem_of_lookup_eq_some hcodes, hn⟩
      exact upperChar_of_mem_upperCodes (List.mem_append_right _ hmem)
    case h_2 hlookup =>
      split at h
      case h_1 r hr =>
        rw [List.mem_singleton.1 h]
        have hcovers : r.covers c.toNat = true := (List.find?_some hr :)
        have hmem := List.mem_flatMap.2
          ⟨r, List.mem_of_find?_eq_some hr, CaseRun.mem_images hcovers⟩
        exact upperChar_of_mem_upperCodes (List.mem_append_left _ hmem)
      case h_2 hfind =>
        -- no run and no expansion, so that the character was its own upper case before
        rw [Char.ofNat_toNat, List.mem_singleton] at h
        rw [h, hmap, mapCode, hlookup]
        dsimp only
        rw [hfind]
        dsimp only
        rw [Char.ofNat_toNat]

theorem upper_upper (s : String) : upper (upper s) = upper s := by
  have hchar (c : Char) : (upperChar c).flatMap upperChar = upperChar c := by
    have hself : ∀ d ∈ upperChar c, upperChar d = [d] := fun d => upperChar_of_mem_upperChar
    rw [List.flatMap_congr hself]
    exact List.flatMap_singleton' _
  rw [upper, upper, String.toList_ofList, List.flatMap_assoc]
  simp only [hchar]

end PayloadCipher.Text
