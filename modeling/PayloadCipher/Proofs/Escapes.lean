import Mathlib.Data.List.Basic
import PayloadCipher.Json.Printer
import PayloadCipher.Json.Reader

/-! Texts in their written form. Whatever its characters are, a text is written between quotes in
printable ASCII, and reading gives it back together with all that stands behind its closing quote.
A character becomes one UTF-16 unit or a pair of surrogates; no character is a surrogate itself, so
reading joins exactly the pairs that writing made. -/

namespace PayloadCipher

theorem Text.hexDigits_four (n : Nat) : Text.hexDigits 4 n =
    [hexDigit (n / 4096 % 16), hexDigit (n / 256 % 16), hexDigit (n / 16 % 16),
     hexDigit (n % 16)] := by
  simp [hexDigits, List.range_succ, Nat.shiftRight_eq_div_pow]

theorem Text.hexDigit_printable :
    ∀ n < 16, 32 ≤ (hexDigit n).toNat ∧ (hexDigit n).toNat < 127 := by
  decide +kernel

theorem Text.toNat_valid (c : Char) :
    c.toNat < 0xd800 ∨ 0xe000 ≤ c.toNat ∧ c.toNat < 0x110000 := c.valid

namespace Json

theorem hexValue?_hexDigit : ∀ n < 16, hexValue? (Text.hexDigit n) = some n := by
  decide +kernel

theorem hexNumber?_hexDigits {n : Nat} (h : n < 0x10000) :
    hexNumber? (Text.hexDigits 4 n) = some n := by
  have hvalue (k : Nat) : hexValue? (Text.hexDigit (k % 16)) = some (k % 16) :=
    hexValue?_hexDigit _ (Nat.mod_lt k (by decide))
  simp only [Text.hexDigits_four, hexNumber?, List.foldlM_cons, List.foldlM_nil, hvalue,
    Option.map_some, Option.bind_eq_bind, Option.bind_some, Option.pure_def, Option.some.injEq]
  omega

def unitsOf (n : Nat) : List Nat :=
  if n < 0x10000 then [n]
  else [0xd800 + (n - 0x10000) / 0x400, 0xdc00 + (n - 0x10000) % 0x400]

theorem readUnits_unitEscape {n : Nat} (h : n < 0x10000) (rest : List Char) :
    readUnits (unitEscape n ++ rest) = (readUnits rest).map fun p => (n :: p.1, p.2) := by
  have hnumber := hexNumber?_hexDigits h
  rw [Text.hexDigits_four] at hnumber
  rw [unitEscape, Text.hexDigits_four]
  simp only [List.cons_append, List.nil_append, readUnits, hnumber]
  cases readUnits rest <;> rfl

theorem codeEscape_eq (n : Nat) : codeEscape n = (unitsOf n).flatMap unitEscape := by
  rw [codeEscape, unitsOf]
  split <;> simp

theorem readUnits_codeEscape {n : Nat} (h : n < 0x110000) (rest : List Char) :
    readUnits (codeEscape n ++ rest) =
      (readUnits rest).map fun p => (unitsOf n ++ p.1, p.2) := by
  rw [codeEscape_eq, unitsOf]
  split
  case isTrue hbasic =>
    rw [List.flatMap_singleton, readUnits_unitEscape hbasic]
    rfl
  case isFalse hbeyond =>
    have hhigh : 0xd800 + (n - 0x10000) / 0x400 < 0x10000 := by omega
    have hlow : 0xdc00 + (n - 0x10000) % 0x400 < 0x10000 := by omega
    rw [List.flatMap_cons, List.flatMap_singleton, List.append_assoc, readUnits_unitEscape hhigh,
      readUnits_unitEscape hlow, Option.map_map]
    rfl

theorem escape_of_namedEscape? {c e : Char} (h : namedEscape? c = some e) :
    e ≠ 'u' ∧ escapedCode? e = some c.toNat ∧ c.toNat < 0x10000 ∧
      32 ≤ e.toNat ∧ e.toNat < 127 := by
  simp only [namedEscape?] at h
  repeat' split at h
  all_goals first
    | (cases h; subst_vars; decide)
    | cases h

theorem readUnits_named {e : Char} {n : Nat} (hu : e ≠ 'u') (h : escapedCode? e = some n)
    (rest : List Char) :
    readUnits ('\\' :: e :: rest) = (readUnits rest).map fun p => (n :: p.1, p.2) := by
  rw [readUnits, h]
  · cases readUnits rest <;> rfl
  · exact fun _ _ _ _ _ heq _ => hu heq

theorem readUnits_plain {c : Char} (hquote : c ≠ '"') (hescape : c ≠ '\\') (h : 32 ≤ c.toNat)
    (rest : List Char) :
    readUnits (c :: rest) = (readUnits rest).map fun p => (c.toNat :: p.1, p.2) := by
  have hplain : ¬ (c.toNat < 32 ∨ c = '\\') := by
    rw [not_or]
    exact ⟨Nat.not_lt.2 h, hescape⟩
  rw [readUnits, if_neg hplain]
  · cases readUnits rest <;> rfl
  · exact hquote
  · exact fun _ _ _ _ _ heq _ => hescape heq
  · exact fun _ _ heq _ => hescape heq

theorem ne_of_namedEscape?_eq_none {c : Char} (h : namedEscape? c = none) : c ≠ '"' ∧ c ≠ '\\' := by
  constructor <;> (rintro rfl; cases h)

theorem readUnits_writeChar (c : Char) (rest : List Char) :
    readUnits (writeChar c ++ rest) =
      (readUnits rest).map fun p => (unitsOf c.toNat ++ p.1, p.2) := by
  rw [writeChar]
  split
  case h_1 e he =>
    obtain ⟨hu, hcode, hbasic, -⟩ := escape_of_namedEscape? he
    rw [unitsOf, if_pos hbasic]
    exact readUnits_named hu hcode rest
  case h_2 hnone =>
    split
    case isTrue hascii =>
      obtain ⟨hquote, hescape⟩ := ne_of_namedEscape?_eq_none hnone
      have hbasic : c.toNat < 0x10000 := by omega
      rw [unitsOf, if_pos hbasic]
      exact readUnits_plain hquote hescape hascii.1 rest
    case isFalse =>
      have hvalid := Text.toNat_valid c
      exact readUnits_codeEscape (by omega) rest

theorem readUnits_flatMap (cs rest : List Char) :
    readUnits (cs.flatMap writeChar ++ '"' :: rest) =
      some (cs.flatMap fun c => unitsOf c.toNat, rest) := by
  induction cs with
  | nil => rfl
  | cons c cs ih =>
    rw [List.flatMap_cons, List.append_assoc, readUnits_writeChar, ih, List.flatMap_cons]
    rfl

theorem joinUnits_cons {n : Nat} (h : ¬ (0xd800 ≤ n ∧ n < 0xe000)) (units : List Nat) :
    joinUnits (n :: units) = Char.ofNat n :: joinUnits units := by
  cases units with
  | nil => simp only [joinUnits, if_neg h]
  | cons m units =>
    have hhigh : ¬ (0xd800 ≤ n ∧ n < 0xdc00 ∧ 0xdc00 ≤ m ∧ m < 0xe000) := by omega
    rw [joinUnits, if_neg hhigh, if_neg h]

theorem joinUnits_unitsOf (c : Char) (units : List Nat) :
    joinUnits (unitsOf c.toNat ++ units) = c :: joinUnits units := by
  have hvalid := Text.toNat_valid c
  rw [unitsOf]
  split
  case isTrue hbasic =>
    have hwhole : ¬ (0xd800 ≤ c.toNat ∧ c.toNat < 0xe000) := by omega
    rw [List.singleton_append, joinUnits_cons hwhole, Char.ofNat_toNat]
  case isFalse hbeyond =>
    have hpair : 0xd800 ≤ 0xd800 + (c.toNat - 0x10000) / 0x400 ∧
        0xd800 + (c.toNat - 0x10000) / 0x400 < 0xdc00 ∧
        0xdc00 ≤ 0xdc00 + (c.toNat - 0x10000) % 0x400 ∧
        0xdc00 + (c.toNat - 0x10000) % 0x400 < 0xe000 := by omega
    have hjoin : 0x10000 + (0xd800 + (c.toNat - 0x10000) / 0x400 - 0xd800) * 0x400 +
        (0xdc00 + (c.toNat - 0x10000) % 0x400 - 0xdc00) = c.toNat := by omega
    rw [List.cons_append, List.singleton_append, joinUnits, if_pos hpair, hjoin, Char.ofNat_toNat]

theorem joinUnits_flatMap (cs : List Char) :
    joinUnits (cs.flatMap fun c => unitsOf c.toNat) = cs := by
  induction cs with
  | nil => rfl
  | cons c cs ih => rw [List.flatMap_cons, joinUnits_unitsOf, ih]

/-- A text is read back from behind its opening quote. -/
theorem readText?_flatMap (cs rest : List Char) :
    readText? (cs.flatMap writeChar ++ '"' :: rest) = some (String.ofList cs, rest) := by
  rw [readText?, readUnits_flatMap, Option.map_some]
  dsimp only
  rw [joinUnits_flatMap]

theorem printable_unitEscape {n : Nat} {d : Char} (hd : d ∈ unitEscape n) :
    32 ≤ d.toNat ∧ d.toNat < 127 := by
  have hdigit (k : Nat) := Text.hexDigit_printable (k % 16) (Nat.mod_lt k (by decide))
  rw [unitEscape, Text.hexDigits_four] at hd
  simp only [List.mem_cons, List.not_mem_nil, or_false] at hd
  rcases hd with rfl | rfl | rfl | rfl | rfl | rfl
  · decide
  · decide
  · exact hdigit _
  · exact hdigit _
  · exact hdigit _
  · exact hdigit _

theorem printable_writeChar {c d : Char} (hd : d ∈ writeChar c) :
    32 ≤ d.toNat ∧ d.toNat < 127 := by
  rw [writeChar] at hd
  split at hd
  case h_1 e he =>
    obtain ⟨-, -, -, hprintable⟩ := escape_of_namedEscape? he
    rcases List.mem_pair.1 hd with rfl | rfl
    · decide
    · exact hprintable
  case h_2 =>
    split at hd
    case isTrue hascii => rwa [List.mem_singleton.1 hd]
    case isFalse =>
      rw [codeEscape_eq] at hd
      obtain ⟨n, -, hn⟩ := List.mem_flatMap.1 hd
      exact printable_unitEscape hn

theorem printable_writeText {cs : List Char} {d : Char} (hd : d ∈ writeText cs) :
    32 ≤ d.toNat ∧ d.toNat < 127 := by
  simp only [writeText, List.mem_cons, List.mem_append, List.mem_flatMap, List.not_mem_nil,
    or_false] at hd
  rcases hd with rfl | ⟨c, -, hd⟩ | rfl
  · decide
  · exact printable_writeChar hd
  · decide

end Json
end PayloadCipher
